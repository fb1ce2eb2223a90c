import SpikeBackend.Model.DashboardInsights
import SpikeBackend.Reports.Columns

/-!
# The names of columns

The search of `_build_columns` for a free name is unbounded in the source. It ends: of one
candidate more than there are columns before, one is free. And the names that it yields can be
mapped in the configuration of a dashboard as they are.

* `exists_firstFree` — the first free candidate, and no amount of fuel from there on changes it;
* `buildColumns_named` — every column has the first free candidate of its base name;
* `MappableName.normalizeColumn` — the validator takes a name unchanged;
* `column_names_unique_and_mappable` — the three together.
-/

namespace SpikeBackend

open Text Outcome Collections

variable {lib : ReportLibrary}

-- ---------------------------------------------------------------------------
-- The first free candidate
-- ---------------------------------------------------------------------------

/-- The search stops after `tries` candidates that are taken, at one that is free. -/
structure FirstFree (lib : ReportLibrary) (usedNames : List Str) (baseName : Str)
    (tries : Nat) : Prop where
  taken : ∀ i < tries, lib.casefold (nameCandidate baseName i) ∈ usedNames
  free : lib.casefold (nameCandidate baseName tries) ∉ usedNames

/-- There is one first free candidate. -/
theorem FirstFree.unique {usedNames : List Str} {baseName : Str} {m n : Nat}
    (hm : FirstFree lib usedNames baseName m) (hn : FirstFree lib usedNames baseName n) :
    m = n := by
  rcases Nat.lt_trichotomy m n with hLt | hEq | hLt
  · exact absurd (hn.taken m hLt) hm.free
  · exact hEq
  · exact absurd (hm.taken n hLt) hn.free

/-- What the loop tries before it ends is taken. -/
theorem uniqueName_taken (usedNames : List Str) (baseName : Str) {fuel tries : Nat}
    (hTried : ∀ i < tries, lib.casefold (nameCandidate baseName i) ∈ usedNames) :
    ∃ n, uniqueName lib usedNames baseName fuel tries = nameCandidate baseName n ∧
      ∀ i < n, lib.casefold (nameCandidate baseName i) ∈ usedNames := by
  induction fuel generalizing tries with
  | zero => exact ⟨tries, rfl, hTried⟩
  | succ fuel ih =>
    -- The loop goes on while the candidate is taken; the fuel only bounds it.
    rw [uniqueName]
    split
    · next hUsed =>
      refine ih fun i hi => ?_
      rcases Nat.lt_succ_iff_lt_or_eq.mp hi with hi | rfl
      · exact hTried i hi
      · exact hUsed
    · exact ⟨tries, rfl, hTried⟩

/-- **The search ends.** Of one candidate more than there are used names, one is free; the loop
yields the first one as soon as it has fuel for the others. -/
theorem exists_firstFree (lib : ReportLibrary) (usedNames : List Str) (baseName : Str) :
    ∃ tries ≤ usedNames.length, FirstFree lib usedNames baseName tries ∧
      ∀ fuel, usedNames.length ≤ fuel →
        uniqueName lib usedNames baseName fuel 0 = nameCandidate baseName tries := by
  have hStart : ∀ i < 0, lib.casefold (nameCandidate baseName i) ∈ usedNames :=
    fun i hi => absurd hi (Nat.not_lt_zero i)
  -- More candidates than used names: one of them is free.
  have hSearch : ∀ fuel, usedNames.length ≤ fuel → ∃ n, FirstFree lib usedNames baseName n ∧
      uniqueName lib usedNames baseName fuel 0 = nameCandidate baseName n := by
    intro fuel hFuel
    obtain ⟨n, hName, hTaken⟩ := @uniqueName_taken lib usedNames baseName fuel 0 hStart
    have hFree := @uniqueName_not_mem lib usedNames baseName fuel 0 hFuel hStart
    rw [hName] at hFree
    exact ⟨n, ⟨hTaken, hFree⟩, hName⟩
  obtain ⟨tries, hFirst, -⟩ := hSearch usedNames.length (Nat.le_refl _)
  refine ⟨tries, le_length_of_taken hFirst.taken, hFirst, fun fuel hFuel => ?_⟩
  obtain ⟨n, hOther, hName⟩ := hSearch fuel hFuel
  rw [hName, hOther.unique hFirst]

-- ---------------------------------------------------------------------------
-- The columns
-- ---------------------------------------------------------------------------

/-- The text that the candidates of a column begin with. -/
def columnBase (i : Nat) (sourceName : Option Str) : Str :=
  sourceName.getD (str "column_" ++ natText (i + 1))

/-- The folded names of some columns. -/
def foldedNames (lib : ReportLibrary) (columns : List ColumnProfile) : List Str :=
  columns.map fun column => lib.casefold column.name

/-- A column that has the first free candidate of its base name, out of `i + 1`. -/
structure ColumnNamed (lib : ReportLibrary) (before : List ColumnProfile) (value : RawValue)
    (column : ColumnProfile) : Prop where
  header : headerText lib value (decide (before.length = 0)) = .ok column.sourceName
  search : ∃ tries ≤ before.length,
    FirstFree lib (foldedNames lib before) (columnBase before.length column.sourceName) tries ∧
      column.name = nameCandidate (columnBase before.length column.sourceName) tries ∧
      ∀ fuel, before.length ≤ fuel → uniqueName lib (foldedNames lib before)
        (columnBase before.length column.sourceName) fuel 0 = column.name

/-- One header cell appends one column, named as stated. -/
theorem buildColumn_named {columns columns' : List ColumnProfile} {value : RawValue}
    (h : buildColumn lib columns value = .ok columns') :
    ∃ column, columns' = columns ++ [column] ∧ ColumnNamed lib columns value column := by
  simp only [buildColumn, bind_eq_ok] at h
  obtain ⟨sourceName, hSource, h⟩ := h
  obtain rfl := Except.ok.inj h
  obtain ⟨tries, hLe, hFirst, hName⟩ :=
    exists_firstFree lib (foldedNames lib columns) (columnBase columns.length sourceName)
  have hLength : (foldedNames lib columns).length = columns.length := List.length_map _
  rw [hLength] at hLe hName
  have hOwn := hName columns.length (Nat.le_refl _)
  refine ⟨_, rfl, hSource, tries, hLe, hFirst, hOwn, fun fuel hFuel => ?_⟩
  exact (hName fuel hFuel).trans hOwn.symm

/-- **The columns of a header**, each named after the ones before it. -/
theorem buildColumns_named {values : List RawValue} {columns : List ColumnProfile}
    (h : buildColumns lib values = .ok columns) :
    columns.length = values.length ∧
      ∀ i column, columns[i]? = some column → ∃ value, values[i]? = some value ∧
        ColumnNamed lib (columns.take i) value column := by
  refine foldlM_history (P := fun done columns => columns.length = done.length ∧
    ∀ i column, columns[i]? = some column → ∃ value, done[i]? = some value ∧
      ColumnNamed lib (columns.take i) value column) h ⟨rfl, fun i column hi => ?_⟩ ?_
  · exact absurd hi (by simp)
  · intro done columns value columns' _ hDone hBuild
    obtain ⟨hLength, hEach⟩ := hDone
    obtain ⟨column, rfl, hNamed⟩ := buildColumn_named hBuild
    refine ⟨by simp [hLength], fun i other hi => ?_⟩
    -- A column built before keeps its place, the new one is the last.
    rcases Nat.lt_or_ge i columns.length with hLt | hGe
    · rw [List.getElem?_append_left hLt] at hi
      obtain ⟨v, hv, hOther⟩ := hEach i other hi
      rw [List.take_append_of_le_length hLt.le, List.getElem?_append_left (hLength ▸ hLt)]
      exact ⟨v, hv, hOther⟩
    · rw [List.getElem?_append_right hGe] at hi
      obtain ⟨hZero, hEq⟩ := List.getElem?_eq_some_iff.mp hi
      rw [List.length_singleton] at hZero
      have hIndex : i = columns.length := by omega
      subst hIndex
      rw [List.getElem_singleton] at hEq
      subst hEq
      rw [List.take_left, hLength, List.getElem?_concat_length]
      exact ⟨value, rfl, hNamed⟩

-- ---------------------------------------------------------------------------
-- Names that can be mapped
-- ---------------------------------------------------------------------------

/-- `sys.maxsize`: no list of Python is longer. -/
def maxsize : Nat := 2 ^ 63 - 1

/-- A text with no whitespace at its ends. -/
structure Trimmed (s : Str) : Prop where
  head : ∀ c, s.head? = some c → isSpace c = false
  last : ∀ c, s.getLast? = some c → isSpace c = false

/-- A text that neither begins nor ends with a blank is trimmed. -/
theorem trimmed_of_any {s : Str} (hHead : s.head?.any isSpace = false)
    (hLast : s.getLast?.any isSpace = false) : Trimmed s := by
  constructor
  · intro c hc
    rw [hc] at hHead
    exact hHead
  · intro c hc
    rw [hc] at hLast
    exact hLast

theorem trimmed_strip (s : Str) : Trimmed (strip s) :=
  ⟨fun _ h => not_isSpace_head?_strip h, fun _ h => not_isSpace_getLast?_strip h⟩

/-- Two trimmed texts that are not empty join to a trimmed one. -/
theorem Trimmed.append {s t : Str} (hs : Trimmed s) (ht : Trimmed t) (hsNe : s ≠ [])
    (htNe : t ≠ []) : Trimmed (s ++ t) := by
  constructor
  · intro c hc
    rw [List.head?_append_of_ne_nil s hsNe] at hc
    exact hs.head c hc
  · intro c hc
    rw [List.getLast?_append_of_ne_nil s htNe] at hc
    exact ht.last c hc

/-- A numeral is trimmed. -/
theorem trimmed_natText (n : Nat) : Trimmed (natText n) := by
  have hDigits : ∀ c ∈ natText n, isSpace c = false := by
    intro c hc
    have hDigit := mem_natText hc
    simp only [isSpace, Bool.or_eq_false_iff, Bool.and_eq_false_iff, decide_eq_false_iff_not,
      beq_eq_false_iff_ne]
    omega
  exact ⟨fun c hc => hDigits c (List.mem_of_mem_head? hc),
    fun c hc => hDigits c (List.mem_of_getLast? hc)⟩

/-- A number below a power of ten has at most that many digits. -/
theorem length_natText_le {n k : Nat} (hk : 0 < k) (h : n < 10 ^ k) : (natText n).length ≤ k := by
  unfold natText str
  rw [List.length_map, String.toList_ofList]
  exact (Nat.length_toDigits_le_iff (by decide) hk).mpr h

/-- What the validator of a mapping asks of a name. -/
structure MappableName (s : Str) : Prop where
  nonempty : s ≠ []
  trimmed : Trimmed s
  length : s.length ≤ maxDashboardSourceColumnLength

theorem MappableName.strip {s : Str} (h : MappableName s) : strip s = s :=
  strip_eq_self h.trimmed.head h.trimmed.last

/-- A header text is trimmed and within its limit. -/
theorem headerText_trimmed {value : RawValue} {firstColumn : Bool} {s : Str}
    (h : headerText lib value firstColumn = .ok (some s)) :
    Trimmed s ∧ s.length ≤ reportMaxHeaderCharacters := by
  simp only [headerText, bind_eq_ok] at h
  obtain ⟨cell, -, h⟩ := h
  split at h
  · cases h
  · split at h
    · cases h
    · simp only [bind_eq_ok, ensure_eq_ok] at h
      obtain ⟨-, hLength, -, -, hText⟩ := h
      obtain rfl := Option.some.inj (Except.ok.inj hText)
      exact ⟨trimmed_strip _, hLength⟩

/-- The base name of a column. -/
theorem columnBase_trimmed {value : RawValue} {i : Nat} {sourceName : Option Str}
    (h : headerText lib value (decide (i = 0)) = .ok sourceName) (hIndex : i + 1 ≤ maxsize) :
    columnBase i sourceName ≠ [] ∧ Trimmed (columnBase i sourceName) ∧
      (columnBase i sourceName).length ≤ reportMaxHeaderCharacters := by
  cases sourceName with
  | some s => exact ⟨(headerText_eq_ok h).1, headerText_trimmed h⟩
  | none =>
    -- A blank header is numbered; an index has at most 19 digits.
    have hNumber : (natText (i + 1)).length ≤ 19 :=
      length_natText_le (by decide) (lt_of_le_of_lt hIndex (by decide))
    have hPrefix : Trimmed (str "column_") := trimmed_of_any rfl rfl
    refine ⟨List.append_ne_nil_of_left_ne_nil (by decide) _,
      hPrefix.append (trimmed_natText _) (by decide) (natText_ne_empty _), ?_⟩
    show (str "column_" ++ natText (i + 1)).length ≤ 255
    rw [List.length_append, show (str "column_").length = 7 from rfl]
    omega

/-- **A produced name** is one that the validator takes. -/
theorem ColumnNamed.mappable {before : List ColumnProfile} {value : RawValue}
    {column : ColumnProfile} (h : ColumnNamed lib before value column)
    (hIndex : before.length + 1 ≤ maxsize) : MappableName column.name := by
  obtain ⟨tries, hLe, -, hName, -⟩ := h.search
  obtain ⟨hNe, hTrimmed, hLength⟩ := columnBase_trimmed h.header hIndex
  have hHeader : reportMaxHeaderCharacters = 255 := rfl
  have hMax : maxDashboardSourceColumnLength = 300 := rfl
  rw [hName]
  -- The base name itself, or the base name with a suffix.
  cases tries with
  | zero => exact ⟨hNe, hTrimmed, by rw [nameCandidate, if_pos rfl]; omega⟩
  | succ tries =>
    have hNumber : (natText (tries + 1 + 1)).length ≤ 19 := by
      refine length_natText_le (by decide) (lt_of_le_of_lt ?_ (by decide : maxsize < 10 ^ 19))
      omega
    have hUnderscores : Trimmed (str "__") := trimmed_of_any rfl rfl
    have hSuffix : Trimmed (nameSuffix (tries + 1)) :=
      hUnderscores.append (trimmed_natText _) (by decide) (natText_ne_empty _)
    rw [nameCandidate_succ]
    refine ⟨List.append_ne_nil_of_left_ne_nil hNe _, hTrimmed.append hSuffix hNe
      (List.append_ne_nil_of_left_ne_nil (by decide) _), ?_⟩
    rw [List.length_append, nameSuffix, List.length_append, show (str "__").length = 2 from rfl]
    omega

-- ---------------------------------------------------------------------------
-- The validator
-- ---------------------------------------------------------------------------

/-- Setting a fresh key appends its entry. -/
theorem setEntries_of_not_mem {κ ν : Type} [DecidableEq κ] {k : κ} {es : List (κ × ν)}
    (h : k ∉ es.map Prod.fst) (v : ν) : setEntries k v es = es ++ [(k, v)] := by
  induction es with
  | nil => rfl
  | cons e es ih =>
    rw [List.map_cons, List.mem_cons, not_or] at h
    rw [setEntries, if_neg (Ne.symm h.1), ih h.2, List.cons_append]

/-- One entry of a mapping, after others. -/
theorem normalizeColumn_mappable {casefold : Str → Str}
    {state : OrderedDict DashboardInsightField Str × List Str}
    {entry : DashboardInsightField × Str} (hName : MappableName entry.2)
    (hFresh : casefold entry.2 ∉ state.2) :
    normalizeColumn casefold state entry =
      .ok (state.1.set entry.1 entry.2, casefold entry.2 :: state.2) := by
  have hLength : 1 ≤ entry.2.length ∧ entry.2.length ≤ maxDashboardSourceColumnLength :=
    ⟨List.length_pos_iff.mpr hName.nonempty, hName.length⟩
  unfold normalizeColumn
  simp only [hName.strip]
  rw [ensure_pos hLength, ok_bind, ensure_pos hFresh]
  rfl

/-- **The validator of a mapping** takes it unchanged if its names can be mapped and are told
apart by folding. -/
theorem normalizeColumns_mappable {casefold : Str → Str}
    {mapping : OrderedDict DashboardInsightField Str}
    (hNames : ∀ name ∈ mapping.values, MappableName name)
    (hApart : (mapping.values.map casefold).Nodup) :
    normalizeColumns casefold mapping = .ok mapping := by
  -- The state after some entries: what was normalised is stored as it was, and its folded names are
  -- used.
  suffices hRun : ∀ (rest done : List (DashboardInsightField × Str))
      (state : OrderedDict DashboardInsightField Str × List Str),
      mapping.entries = done ++ rest → state.1.entries = done →
      state.2 = (done.map fun e => casefold e.2).reverse →
      ∃ used, rest.foldlM (normalizeColumn casefold) state = .ok (mapping, used) by
    obtain ⟨used, hDone⟩ := hRun mapping.entries [] (∅, []) rfl rfl rfl
    unfold normalizeColumns
    rw [hDone]
    rfl
  intro rest
  induction rest with
  | nil =>
    intro done state hAll hEntries _
    rw [List.append_nil] at hAll
    have hSame : state.1 = mapping := by
      obtain ⟨⟨entries, hNodup⟩, used⟩ := state
      obtain ⟨entries', hNodup'⟩ := mapping
      obtain rfl : entries = entries' := hEntries.trans hAll.symm
      rfl
    exact ⟨state.2, by rw [List.foldlM_nil, ← hSame]; rfl⟩
  | cons entry rest ih =>
    intro done state hAll hEntries hUsed
    have hMem : entry ∈ mapping.entries := by
      rw [hAll]
      exact List.mem_append_right _ List.mem_cons_self
    have hFields : ((done ++ entry :: rest).map Prod.fst).Nodup := hAll ▸ mapping.nodup
    have hFolded : ((done ++ entry :: rest).map fun e => casefold e.2).Nodup := by
      rw [← hAll]
      have hNodup := hApart
      unfold OrderedDict.values at hNodup
      rw [List.map_map] at hNodup
      exact hNodup
    rw [List.map_append, List.map_cons, List.nodup_middle, List.nodup_cons] at hFields hFolded
    -- No name folds to one used before.
    have hFresh : casefold entry.2 ∉ state.2 := by
      rw [hUsed, List.mem_reverse]
      exact fun h => hFolded.1 (List.mem_append_left _ h)
    have hStep := normalizeColumn_mappable (hNames entry.2 (List.mem_map_of_mem hMem)) hFresh
    rw [List.foldlM_cons, hStep, ok_bind]
    refine ih (done ++ [entry]) _ (by rw [hAll, List.append_assoc]; rfl) ?_ ?_
    · rw [OrderedDict.entries_set, hEntries]
      exact setEntries_of_not_mem (fun h => hFields.1 (List.mem_append_left _ h)) entry.2
    · show casefold entry.2 :: state.2 = _
      rw [hUsed, List.map_append, List.reverse_append]
      rfl

-- ---------------------------------------------------------------------------
-- A header
-- ---------------------------------------------------------------------------

/-- **The names of the columns of a header.** The search for the name of column `i` ends after at
most `i + 1` candidates, at the first one that is free; the names are told apart by folding; a
base name that is free is the name itself; and every mapping to different names among them
passes the validator unchanged. -/
theorem column_names_unique_and_mappable {lib : ReportLibrary} {values : List RawValue}
    {columns : List ColumnProfile} (h : buildColumns lib values = .ok columns) :
    columns.length = values.length ∧
      (∀ i column, columns[i]? = some column → ∃ value, values[i]? = some value ∧
        headerText lib value (decide (i = 0)) = .ok column.sourceName ∧
        ∃ tries ≤ i,
          FirstFree lib (foldedNames lib (columns.take i)) (columnBase i column.sourceName) tries ∧
          column.name = nameCandidate (columnBase i column.sourceName) tries ∧
          ∀ fuel, i ≤ fuel → uniqueName lib (foldedNames lib (columns.take i))
            (columnBase i column.sourceName) fuel 0 = column.name) ∧
      (foldedNames lib columns).Nodup ∧
      (∀ i column, columns[i]? = some column →
        lib.casefold (columnBase i column.sourceName) ∉ foldedNames lib (columns.take i) →
          column.name = columnBase i column.sourceName) ∧
      (values.length ≤ maxsize → ∀ mapping : OrderedDict DashboardInsightField Str,
        mapping.values.Nodup → (∀ name ∈ mapping.values, name ∈ columns.map ColumnProfile.name) →
          (∀ name ∈ mapping.values, name ≠ [] ∧ strip name = name ∧
            name.length ≤ maxDashboardSourceColumnLength) ∧
          (mapping.values.map lib.casefold).Nodup ∧
          normalizeColumns lib.casefold mapping = .ok mapping) := by
  obtain ⟨hLength, hNamed⟩ := buildColumns_named h
  have hFolded : (foldedNames lib columns).Nodup := (buildColumns_eq_ok h).1.folded_nodup
  have hBefore : ∀ i column, columns[i]? = some column → (columns.take i).length = i := by
    intro i column hi
    have hLt : i < columns.length := (List.getElem?_eq_some_iff.mp hi).1
    rw [List.length_take, Nat.min_eq_left hLt.le]
  refine ⟨hLength, fun i column hi => ?_, hFolded, fun i column hi hFree => ?_,
    fun hSize mapping hNodup hMem => ?_⟩
  · obtain ⟨value, hValue, hHeader, hSearch⟩ := hNamed i column hi
    rw [hBefore i column hi] at hHeader hSearch
    exact ⟨value, hValue, hHeader, hSearch⟩
  · obtain ⟨value, -, -, tries, -, hFirst, hName, -⟩ := hNamed i column hi
    rw [hBefore i column hi] at hFirst hName
    -- the base name is the first candidate
    have hZero : FirstFree lib (foldedNames lib (columns.take i))
        (columnBase i column.sourceName) 0 := by
      refine ⟨fun j hj => absurd hj (Nat.not_lt_zero j), ?_⟩
      rw [nameCandidate, if_pos rfl]
      exact hFree
    rw [hName, hFirst.unique hZero, nameCandidate, if_pos rfl]
  · have hMappable : ∀ name ∈ mapping.values, MappableName name := by
      intro name hName
      obtain ⟨column, hColumn, rfl⟩ := List.mem_map.mp (hMem name hName)
      obtain ⟨i, hLt, hi⟩ := List.mem_iff_getElem.mp hColumn
      have hGet : columns[i]? = some column := List.getElem?_eq_some_iff.mpr ⟨hLt, hi⟩
      obtain ⟨value, -, hBuilt⟩ := hNamed i column hGet
      refine hBuilt.mappable ?_
      rw [hBefore i column hGet]
      omega
    have hApart : (mapping.values.map lib.casefold).Nodup := by
      refine hNodup.map_on fun a ha b hb hSame => ?_
      have hInj := List.inj_on_of_nodup_map (f := lib.casefold)
        (l := columns.map ColumnProfile.name) (by
          rw [List.map_map]
          exact hFolded)
      exact hInj (hMem a ha) (hMem b hb) hSame
    exact ⟨fun name hName => ⟨(hMappable name hName).nonempty, (hMappable name hName).strip,
      (hMappable name hName).length⟩, hApart, normalizeColumns_mappable hMappable hApart⟩

namespace NamesSample

/-- Folding, as it is on ASCII. -/
def casefoldChar (c : CodePoint) : Str :=
  if 0x41 ≤ c.val ∧ c.val ≤ 0x5A then [c + 0x20] else [c]

def report : ReportLibrary where
  floatRepr _ := str "0.5"
  floatOfDecimal := some
  nfc s := s
  casefoldChar := casefoldChar
  casefoldChar_suffix c h := by
    simp only [isSuffixChar, Bool.or_eq_true, Bool.and_eq_true, decide_eq_true_eq, beq_iff_eq] at h
    exact if_neg (by omega)
  lineFeed_not_mem_floatRepr _ := by decide

/-- A header with a name that is written in two ways, a blank one, and one that is like the name
that the blank one gets. -/
def values : List RawValue :=
  [.str (str "Amount"), .str (str "amount "), .none, .str (str "Column_3")]

end NamesSample

open NamesSample in
/-- A header of four columns. -/
theorem column_names_sample :
    ∃ columns, buildColumns report values = .ok columns ∧
      columns.map ColumnProfile.name =
        [str "Amount", str "amount__2", str "column_3", str "Column_3__2"] ∧
      (foldedNames report columns).Nodup := by
  obtain ⟨columns, hColumns⟩ := exists_ok_of_isOk
    (by decide +kernel : (buildColumns report values).isOk = true)
  have hNames : (buildColumns report values).toOption.map (·.map ColumnProfile.name) =
      some [str "Amount", str "amount__2", str "column_3", str "Column_3__2"] := by
    decide +kernel
  rw [hColumns] at hNames
  exact ⟨columns, hColumns, Option.some.inj hNames,
    (column_names_unique_and_mappable hColumns).2.2.1⟩

end SpikeBackend
