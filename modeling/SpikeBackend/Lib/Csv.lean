import SpikeBackend.Lib.Text

/-!
# CSV texts

`csv.reader(StringIO(text, newline=""), strict=True)` in the dialect `excel`: the lines of the
text with their ends, and the state machine that reads the fields of a row out of one or more
lines. A row is read when the caller asks for it, so that an error comes after the rows before it.

* `readRows_lines` — a line that is a row of its own is read on its own;
* `rows_fields` — fields without special characters are read as they are;
* `holds_rows` — fields are made of the characters of the text.
-/

namespace Csv

open Text

def newline : CodePoint := 0x0A

def carriageReturn : CodePoint := 0x0D

def delimiter : CodePoint := 0x2C

def quotechar : CodePoint := 0x22

/-- `csv.field_size_limit()`. -/
def fieldLimit : Nat := 128 * 1024

def isLineEnd (c : CodePoint) : Bool := c == newline || c == carriageReturn

-- ---------------------------------------------------------------------------
-- Lines
-- ---------------------------------------------------------------------------

/-- A character in front of the lines of a text. -/
def consLine (c : CodePoint) : List Str → List Str
  | [] => [[c]]
  | line :: lines =>
    if c = newline ∨ (c = carriageReturn ∧ line ≠ [newline]) then [c] :: line :: lines
    else (c :: line) :: lines

/-- The lines of a text, which end in `\n`, `\r` or `\r\n` and keep their ends. -/
def lines (text : Str) : List Str := text.foldr consLine []

-- ---------------------------------------------------------------------------
-- The reader
-- ---------------------------------------------------------------------------

/-- The states of the reader; the dialect has no escape character. -/
inductive Mode
  | startRecord
  | startField
  | inField
  | inQuotedField
  | quoteInQuotedField
  | eatCrnl
  deriving DecidableEq, Repr

structure Reader where
  mode : Mode := .startRecord
  fields : List Str := []
  field : Str := []
  deriving DecidableEq

namespace Reader

variable (r : Reader)

/-- `parse_save_field`. -/
def saveField (mode : Mode) : Reader := ⟨mode, r.fields ++ [r.field], []⟩

/-- `parse_add_char`; `none` is a `csv.Error`. -/
def addChar (mode : Mode) (c : CodePoint) : Option Reader :=
  if fieldLimit ≤ r.field.length then none else some ⟨mode, r.fields, r.field ++ [c]⟩

/-- A character at the start of a field. -/
def startField (c : CodePoint) : Option Reader :=
  if isLineEnd c then some (r.saveField .eatCrnl)
  else if c = quotechar then some { r with mode := .inQuotedField }
  else if c = delimiter then some (r.saveField .startField)
  else r.addChar .inField c

/-- `parse_process_char` for a character of a line. -/
def processChar (c : CodePoint) : Option Reader :=
  match r.mode with
  | .startRecord => if isLineEnd c then some { r with mode := .eatCrnl } else r.startField c
  | .startField => r.startField c
  | .inField =>
    if isLineEnd c then some (r.saveField .eatCrnl)
    else if c = delimiter then some (r.saveField .startField)
    else r.addChar .inField c
  | .inQuotedField =>
    if c = quotechar then some { r with mode := .quoteInQuotedField }
    else r.addChar .inQuotedField c
  | .quoteInQuotedField =>
    if c = quotechar then r.addChar .inQuotedField c
    else if c = delimiter then some (r.saveField .startField)
    else if isLineEnd c then some (r.saveField .eatCrnl)
    else none
  | .eatCrnl => if isLineEnd c then some r else none

/-- `parse_process_char` for the end of a line. -/
def processEnd : Reader :=
  match r.mode with
  | .startRecord => r
  | .startField | .inField | .quoteInQuotedField => r.saveField .startRecord
  | .inQuotedField => r
  | .eatCrnl => { r with mode := .startRecord }

/-- One line. -/
def readLine (line : Str) : Option Reader := (line.foldlM processChar r).map processEnd

end Reader

/-- The rows that a reader yields, and whether a `csv.Error` ends them. -/
def readRows (r : Reader) : List Str → List (List Str) × Bool
  | [] => ([], !r.field.isEmpty || decide (r.mode = .inQuotedField))
  | line :: lines =>
    match r.readLine line with
    | none => ([], true)
    | some r' =>
      if r'.mode = .startRecord then
        ((r'.fields :: (readRows {} lines).1), (readRows {} lines).2)
      else readRows r' lines

/-- The rows of a text. -/
def rows (text : Str) : List (List Str) × Bool := readRows {} (lines text)

-- ---------------------------------------------------------------------------
-- Lines that are rows
-- ---------------------------------------------------------------------------

/-- A line feed at the front ends an empty line. -/
theorem lines_newline (s : Str) : lines (newline :: s) = [newline] :: lines s := by
  show consLine newline (lines s) = _
  cases lines s with
  | nil => rfl
  | cons line rest =>
    rw [consLine]
    exact if_pos (Or.inl rfl)

/-- Characters that end no line stand in front of the first line. -/
theorem lines_append {line : Str} (hLine : ∀ c ∈ line, isLineEnd c = false) (s : Str) :
    lines (line ++ newline :: s) = (line ++ [newline]) :: lines s := by
  induction line with
  | nil => exact lines_newline s
  | cons c line ih =>
    have hRest := ih fun d hd => hLine d (List.mem_cons_of_mem c hd)
    have hChar := hLine c List.mem_cons_self
    simp only [isLineEnd, Bool.or_eq_false_iff, beq_eq_false_iff_ne] at hChar
    show consLine c (lines (line ++ newline :: s)) = _
    rw [hRest]
    refine if_neg ?_
    rintro (h | h)
    · exact hChar.1 h
    · exact hChar.2 h.1

/-- The line that reads a row of its own is read on its own. -/
theorem readRows_lines {line : Str} {fields : List Str} (rest : List Str)
    (hRow : Reader.readLine {} line = some ⟨.startRecord, fields, []⟩) :
    readRows {} (line :: rest) = (fields :: (readRows {} rest).1, (readRows {} rest).2) := by
  rw [readRows, hRow]
  rfl

-- ---------------------------------------------------------------------------
-- Fields without special characters
-- ---------------------------------------------------------------------------

/-- A character that means nothing to the reader. -/
def isPlain (c : CodePoint) : Bool := !isLineEnd c && c != delimiter && c != quotechar

/-- A field of such characters, within the limit. -/
structure PlainField (field : Str) : Prop where
  plain : ∀ c ∈ field, isPlain c = true
  length_le : field.length ≤ fieldLimit

/-- The text of a row. -/
def rowText (fields : List Str) : Str := [delimiter].intercalate fields

/-- A plain character ends no line and no field, and quotes nothing. -/
theorem isPlain_eq_true {c : CodePoint} (h : isPlain c = true) :
    isLineEnd c = false ∧ c ≠ delimiter ∧ c ≠ quotechar := by
  simp only [isPlain, Bool.and_eq_true, Bool.not_eq_true', bne_iff_ne] at h
  exact ⟨h.1.1, h.1.2, h.2⟩

/-- Inside a field plain characters are taken into it, up to the limit. -/
theorem readField_inField (fields : List Str) (field : Str) {s : Str}
    (hPlain : ∀ c ∈ s, isPlain c = true) (hLength : field.length + s.length ≤ fieldLimit) :
    s.foldlM Reader.processChar ⟨.inField, fields, field⟩ = some ⟨.inField, fields, field ++ s⟩ := by
  induction s generalizing field with
  | nil => rw [List.append_nil]; rfl
  | cons c s ih =>
    obtain ⟨hEnd, hDelimiter, -⟩ := isPlain_eq_true (hPlain c List.mem_cons_self)
    rw [List.length_cons] at hLength
    have hRoom : ¬fieldLimit ≤ field.length := by omega
    have hStep : Reader.processChar ⟨.inField, fields, field⟩ c =
        some ⟨.inField, fields, field ++ [c]⟩ := by
      simp only [Reader.processChar, hEnd, hDelimiter, Reader.addChar, hRoom, if_false,
        Bool.false_eq_true]
    have hRest : (field ++ [c]).length + s.length ≤ fieldLimit := by
      rw [List.length_append, List.length_singleton]
      omega
    rw [List.foldlM_cons, hStep]
    show s.foldlM Reader.processChar ⟨.inField, fields, field ++ [c]⟩ = _
    rw [ih (field ++ [c]) (fun d hd => hPlain d (List.mem_cons_of_mem c hd)) hRest,
      List.append_assoc, List.singleton_append]

/-- A field, and what ends it. -/
theorem readField_end {field : Str} (hField : PlainField field) (fields : List Str)
    {last : CodePoint} {mode : Mode}
    (hLast : ∀ m, m = .startField ∨ m = .inField →
      Reader.processChar ⟨m, fields, field⟩ last = some ⟨mode, fields ++ [field], []⟩) :
    (field ++ [last]).foldlM Reader.processChar ⟨.startField, fields, []⟩ =
      some ⟨mode, fields ++ [field], []⟩ := by
  cases field with
  | nil =>
    rw [List.nil_append, List.foldlM_cons, hLast .startField (Or.inl rfl)]
    rfl
  | cons c s =>
    have hPlain := hField.plain
    have hLength := hField.length_le
    obtain ⟨hEnd, hDelimiter, hQuote⟩ := isPlain_eq_true (hPlain c List.mem_cons_self)
    rw [List.length_cons] at hLength
    have hRoom : ¬fieldLimit ≤ ([] : Str).length := by decide
    have hStep : Reader.processChar ⟨.startField, fields, []⟩ c = some ⟨.inField, fields, [c]⟩ := by
      simp only [Reader.processChar, Reader.startField, hEnd, hDelimiter, hQuote, Reader.addChar,
        hRoom, if_false, Bool.false_eq_true, List.nil_append]
    -- the first character starts the field, and the others go on with it
    have hRest := readField_inField fields [c] (fun d hd => hPlain d (List.mem_cons_of_mem c hd))
      (by rw [List.length_singleton]; omega)
    rw [List.cons_append, List.foldlM_cons, hStep]
    show (s ++ [last]).foldlM Reader.processChar ⟨.inField, fields, [c]⟩ = _
    rw [List.foldlM_append, hRest]
    show [last].foldlM Reader.processChar ⟨.inField, fields, c :: s⟩ = _
    rw [List.foldlM_cons, hLast .inField (Or.inr rfl)]
    rfl

/-- **A row of plain fields.** They are read up to the line feed behind them. -/
theorem readFields {field : Str} {fields : List Str} (done : List Str)
    (hFields : ∀ f ∈ field :: fields, PlainField f) :
    (rowText (field :: fields) ++ [newline]).foldlM Reader.processChar ⟨.startField, done, []⟩ =
      some ⟨.eatCrnl, done ++ field :: fields, []⟩ := by
  induction fields generalizing field done with
  | nil =>
    rw [rowText, List.intercalate_singleton]
    refine readField_end (hFields field List.mem_cons_self) done ?_
    rintro m (rfl | rfl) <;> rfl
  | cons next fields ih =>
    -- the first field ends at its delimiter, and the next one starts
    have hField : (field ++ [delimiter]).foldlM Reader.processChar ⟨.startField, done, []⟩ =
        some ⟨.startField, done ++ [field], []⟩ := by
      refine readField_end (hFields field List.mem_cons_self) done ?_
      rintro m (rfl | rfl) <;> rfl
    rw [rowText, List.intercalate_cons_cons, List.append_assoc, List.append_assoc,
      ← List.append_assoc field, List.foldlM_append, hField]
    have hRest := ih (done ++ [field]) fun f hf => hFields f (List.mem_cons_of_mem field hf)
    rw [List.append_assoc, List.singleton_append] at hRest
    exact hRest

/-- **Plain rows.** A line that is not empty is read as the fields that are joined in it. -/
theorem readLine_fields {fields : List Str} (hFields : ∀ f ∈ fields, PlainField f)
    (hLine : rowText fields ≠ []) :
    Reader.readLine {} (rowText fields ++ [newline]) = some ⟨.startRecord, fields, []⟩ := by
  cases fields with
  | nil => exact absurd rfl hLine
  | cons field fields =>
    have hRead := readFields [] hFields
    have hFirst : ∀ c rest, rowText (field :: fields) = c :: rest → isLineEnd c = false := by
      intro c rest hText
      cases field with
      | cons d s =>
        have hHead : d = c := by
          cases fields with
          | nil =>
            rw [rowText, List.intercalate_singleton] at hText
            exact (List.cons.inj hText).1
          | cons next fields =>
            rw [rowText, List.intercalate_cons_cons] at hText
            exact (List.cons.inj hText).1
        have hPlain := (hFields _ List.mem_cons_self).plain d List.mem_cons_self
        exact hHead ▸ (isPlain_eq_true hPlain).1
      | nil =>
        cases fields with
        | nil => cases hText
        | cons next fields =>
          rw [rowText, List.intercalate_cons_cons] at hText
          exact (List.cons.inj hText).1 ▸ rfl
    cases hText : rowText (field :: fields) with
    | nil => exact absurd hText hLine
    | cons c rest =>
      -- the first character is read as at the start of a field
      have hSame : Reader.processChar {} c = Reader.processChar ⟨.startField, [], []⟩ c := by
        show (if isLineEnd c = true then _ else _) = _
        rw [if_neg (by rw [hFirst c rest hText]; decide)]
        rfl
      rw [hText, List.cons_append, List.foldlM_cons] at hRead
      rw [Reader.readLine, List.cons_append, List.foldlM_cons, hSame, hRead]
      rfl

/-- A row in front of a text. -/
theorem rows_fields {fields : List Str} (hFields : ∀ f ∈ fields, PlainField f)
    (hLine : rowText fields ≠ []) (s : Str) :
    rows (rowText fields ++ newline :: s) = (fields :: (rows s).1, (rows s).2) := by
  have hPlain : ∀ c ∈ rowText fields, isLineEnd c = false := by
    intro c hc
    -- a row is one line: its characters are delimiters, and plain ones of its fields
    by_cases hDelimiter : c = delimiter
    · rw [hDelimiter]
      rfl
    · have hSep : c ∉ [delimiter] := fun h => hDelimiter (List.mem_singleton.mp h)
      obtain ⟨f, hf, hc⟩ := (mem_intercalate hSep).mp hc
      exact (isPlain_eq_true ((hFields f hf).plain c hc)).1
  rw [rows, lines_append hPlain, readRows_lines _ (readLine_fields hFields hLine)]
  rfl

-- ---------------------------------------------------------------------------
-- Characters of the fields
-- ---------------------------------------------------------------------------

section characters

variable {p : CodePoint → Prop}

/-- All characters that a reader has taken satisfy `p`. -/
structure Reader.Holds (p : CodePoint → Prop) (r : Reader) : Prop where
  field : ∀ c ∈ r.field, p c
  fields : ∀ f ∈ r.fields, ∀ c ∈ f, p c

/-- A field that is saved is the one that was taken. -/
theorem Reader.Holds.saveField {r : Reader} (h : r.Holds p) (mode : Mode) :
    (r.saveField mode).Holds p := by
  refine ⟨nofun, fun f hf => ?_⟩
  rcases List.mem_append.mp hf with hf | hf
  · exact h.fields f hf
  · exact List.mem_singleton.mp hf ▸ h.field

/-- A character is added, or the field is too long. -/
theorem Reader.Holds.addChar {r r' : Reader} (h : r.Holds p) {mode : Mode} {c : CodePoint}
    (hc : p c) (hAdd : r.addChar mode c = some r') : r'.Holds p := by
  unfold Reader.addChar at hAdd
  split at hAdd
  · cases hAdd
  · obtain rfl := Option.some.inj hAdd
    refine ⟨fun d hd => ?_, h.fields⟩
    rcases List.mem_append.mp hd with hd | hd
    · exact h.field d hd
    · exact List.mem_singleton.mp hd ▸ hc

/-- The first character of a field ends it, opens a quoted field, or belongs to it. -/
theorem Reader.Holds.startField {r r' : Reader} (h : r.Holds p) {c : CodePoint} (hc : p c)
    (hStart : r.startField c = some r') : r'.Holds p := by
  unfold Reader.startField at hStart
  split_ifs at hStart
  · exact Option.some.inj hStart ▸ h.saveField _
  · exact Option.some.inj hStart ▸ ⟨h.field, h.fields⟩
  · exact Option.some.inj hStart ▸ h.saveField _
  · exact h.addChar hc hStart

/-- A character is taken into the field, ends it, or is dropped. -/
theorem Reader.Holds.processChar {r r' : Reader} (h : r.Holds p) {c : CodePoint} (hc : p c)
    (hChar : r.processChar c = some r') : r'.Holds p := by
  unfold Reader.processChar at hChar
  split at hChar
  · split_ifs at hChar
    · exact Option.some.inj hChar ▸ ⟨h.field, h.fields⟩
    · exact h.startField hc hChar
  · exact h.startField hc hChar
  · split_ifs at hChar
    · exact Option.some.inj hChar ▸ h.saveField _
    · exact Option.some.inj hChar ▸ h.saveField _
    · exact h.addChar hc hChar
  · split_ifs at hChar
    · exact Option.some.inj hChar ▸ ⟨h.field, h.fields⟩
    · exact h.addChar hc hChar
  · split_ifs at hChar
    · exact h.addChar hc hChar
    · exact Option.some.inj hChar ▸ h.saveField _
    · exact Option.some.inj hChar ▸ h.saveField _
  · split_ifs at hChar
    exact Option.some.inj hChar ▸ h

/-- The end of a line adds no character. -/
theorem Reader.Holds.processEnd {r : Reader} (h : r.Holds p) : r.processEnd.Holds p := by
  unfold Reader.processEnd
  split
  · exact h
  · exact h.saveField _
  · exact h.saveField _
  · exact h.saveField _
  · exact h
  · exact ⟨h.field, h.fields⟩

/-- A line adds its own characters. -/
theorem Reader.Holds.readLine {r r' : Reader} (h : r.Holds p) {line : Str} (hLine : ∀ c ∈ line, p c)
    (hRead : r.readLine line = some r') : r'.Holds p := by
  obtain ⟨last, hLast, rfl⟩ := Option.map_eq_some_iff.mp hRead
  refine Reader.Holds.processEnd ?_
  clear hRead
  induction line generalizing r with
  | nil => exact Option.some.inj hLast ▸ h
  | cons c line ih =>
    rw [List.foldlM_cons] at hLast
    obtain ⟨next, hNext, hLast⟩ := Option.bind_eq_some_iff.mp hLast
    exact ih (h.processChar (hLine c List.mem_cons_self) hNext)
      (fun d hd => hLine d (List.mem_cons_of_mem c hd)) hLast

/-- The fields of the rows are made of characters of the lines. -/
theorem holds_readRows {lines : List Str} (hLines : ∀ line ∈ lines, ∀ c ∈ line, p c) {r : Reader}
    (h : r.Holds p) : ∀ row ∈ (readRows r lines).1, ∀ f ∈ row, ∀ c ∈ f, p c := by
  induction lines generalizing r with
  | nil => exact nofun
  | cons line lines ih =>
    have hRest := fun line h => hLines line (List.mem_cons_of_mem _ h)
    rw [readRows]
    split
    · exact nofun
    · rename_i next hNext
      have hRead := h.readLine (hLines line List.mem_cons_self) hNext
      split
      · -- the row is done, and the next one starts with nothing
        exact List.forall_mem_cons.mpr ⟨hRead.fields, ih hRest ⟨nofun, nofun⟩⟩
      · exact ih hRest hRead

/-- The lines of a text are made of its characters. -/
theorem holds_lines {text : Str} (hText : ∀ c ∈ text, p c) :
    ∀ line ∈ lines text, ∀ c ∈ line, p c := by
  induction text with
  | nil => exact nofun
  | cons c text ih =>
    have hc := hText c List.mem_cons_self
    have hRest := ih fun d hd => hText d (List.mem_cons_of_mem c hd)
    have hSingle : ∀ d ∈ [c], p d := List.forall_mem_singleton.mpr hc
    show ∀ line ∈ consLine c (lines text), ∀ d ∈ line, p d
    cases hLines : lines text with
    | nil => exact List.forall_mem_singleton.mpr hSingle
    | cons line rest =>
      rw [hLines] at hRest
      obtain ⟨hFirst, hOthers⟩ := List.forall_mem_cons.mp hRest
      rw [consLine]
      split
      · exact List.forall_mem_cons.mpr ⟨hSingle, hRest⟩
      · exact List.forall_mem_cons.mpr ⟨List.forall_mem_cons.mpr ⟨hc, hFirst⟩, hOthers⟩

/-- **The fields of a text** are made of its characters. -/
theorem holds_rows {text : Str} (hText : ∀ c ∈ text, p c) :
    ∀ row ∈ (rows text).1, ∀ f ∈ row, ∀ c ∈ f, p c :=
  holds_readRows (holds_lines hText) ⟨nofun, nofun⟩

end characters

end Csv
