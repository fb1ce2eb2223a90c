import SpikeBackend.Model.Grounding
import Mathlib.Data.List.Forall2

/-!
# Grounding without interference

The provider is shown a whitelist of the fields of a snapshot. Two snapshots that agree on
these give it the same context, but for the content hash, in the full form and in the reduced
one; and the choice between the forms is the same, since it rests on a length.

* `fullContext_eq` — the context of the one is that of the other with the hash replaced;
* `renderContext_hash` — the hash stands at one place of the text;
* `grounding_noninterference` — the two together, and the bound on the length;
* `boundedPrompt_of_grounded` — an execution that is grounded so always has a prompt.
-/

namespace SpikeBackend

open Relational Text Collections Outcome

-- ---------------------------------------------------------------------------
-- One member of an object
-- ---------------------------------------------------------------------------

namespace Grounding

/-- Sorting by keys puts a member at a place that does not depend on its value. -/
theorem exists_sortBy_split {ν : Type*} (before after : List (Str × ν)) (key : Str) :
    ∃ before' after' : List (Str × ν), ∀ value,
      sortBy Prod.fst (before ++ (key, value) :: after) = before' ++ (key, value) :: after' := by
  -- the member is marked by the only `none`
  let mark : Str × ν → Str × Option ν := fun m => (m.1, some m.2)
  let fill : ν → Str × Option ν → Str × ν := fun value m => (m.1, m.2.getD value)
  let marked := before.map mark ++ (key, none) :: after.map mark
  have hFill : ∀ value, marked.map (fill value) = before ++ (key, value) :: after := by
    intro value
    have hMark : fill value ∘ mark = id := rfl
    simp only [marked, List.map_append, List.map_cons, List.map_map, hMark, List.map_id]
    rfl
  have hSort : ∀ value, sortBy Prod.fst (before ++ (key, value) :: after) =
      (sortBy Prod.fst marked).map (fill value) := by
    intro value
    rw [← hFill value]
    exact (List.map_insertionSort (fun a b : Str × Option ν => a.1 ≤ b.1)
      (fun a b : Str × ν => a.1 ≤ b.1) (fill value) marked fun _ _ _ _ => Iff.rfl).symm
  have hMem : (key, none) ∈ sortBy Prod.fst marked :=
    (mem_sortBy _).mpr (List.mem_append_right _ List.mem_cons_self)
  obtain ⟨left, right, hSplit⟩ := List.append_of_mem hMem
  have hOthers : ∀ m ∈ left ++ right, ∃ w, m.2 = some w := by
    have hPerm : (left ++ (key, none) :: right).Perm marked := hSplit ▸ sortBy_perm _ marked
    have hRest : ((key, none) :: (left ++ right)).Perm
        ((key, none) :: (before.map mark ++ after.map mark)) :=
      (List.perm_middle.symm.trans hPerm).trans List.perm_middle
    intro m hm
    rcases List.mem_append.mp (hRest.cons_inv.mem_iff.mp hm) with hm | hm
    · obtain ⟨w, -, rfl⟩ := List.mem_map.mp hm
      exact ⟨w.2, rfl⟩
    · obtain ⟨w, -, rfl⟩ := List.mem_map.mp hm
      exact ⟨w.2, rfl⟩
  have hFixed : ∀ l : List (Str × Option ν), (∀ m ∈ l, ∃ w, m.2 = some w) →
      ∃ l', ∀ value, l.map (fill value) = l' := by
    intro l hl
    induction l with
    | nil => exact ⟨[], fun _ => rfl⟩
    | cons m l ih =>
      obtain ⟨w, hw⟩ := hl m List.mem_cons_self
      obtain ⟨l', hl'⟩ := ih fun x hx => hl x (List.mem_cons_of_mem _ hx)
      refine ⟨(m.1, w) :: l', fun value => ?_⟩
      have hHead : fill value m = (m.1, w) := by
        show (m.1, m.2.getD value) = (m.1, w)
        rw [hw, Option.getD_some]
      rw [List.map_cons, hHead, hl']
  obtain ⟨before', hBefore⟩ := hFixed left fun m hm => hOthers m (List.mem_append_left _ hm)
  obtain ⟨after', hAfter⟩ := hFixed right fun m hm => hOthers m (List.mem_append_right _ hm)
  refine ⟨before', after', fun value => ?_⟩
  rw [hSort, hSplit, List.map_append, List.map_cons, hBefore, hAfter]
  rfl

/-- The joined texts around one of them. -/
theorem exists_intercalate_split (separator : Str) (before after : List Str) :
    ∃ left right, ∀ text,
      separator.intercalate (before ++ text :: after) = left ++ text ++ right := by
  induction before with
  | nil =>
    cases after with
    | nil => exact ⟨[], [], fun text => by simp⟩
    | cons next after =>
      refine ⟨[], separator ++ separator.intercalate (next :: after), fun text => ?_⟩
      rw [List.nil_append, List.intercalate_cons_cons, List.nil_append, List.append_assoc]
  | cons first before ih =>
    obtain ⟨left, right, hText⟩ := ih
    refine ⟨first ++ separator ++ left, right, fun text => ?_⟩
    have hRest : before ++ text :: after ≠ [] := by simp
    rw [List.cons_append, List.intercalate_cons_of_ne_nil hRest, hText]
    simp only [List.append_assoc]

/-- **One member of an object.** Its text stands at one place of the object's. -/
theorem exists_jsonText_split (floatRepr : Rat → Str) (before after : Dict) (key : Str) :
    ∃ left right, ∀ value : Json,
      jsonText floatRepr (Json.obj (before ++ (key, value) :: after)).sortKeys =
        left ++ jsonText floatRepr value.sortKeys ++ right := by
  let sorted : Dict → Dict := fun d => d.map fun m => (m.1, m.2.sortKeys)
  obtain ⟨before', after', hSorted⟩ := exists_sortBy_split (sorted before) (sorted after) key
  let texts : Dict → List Str := fun d => d.map fun m =>
    quoted m.1 ++ str ":" ++ jsonText floatRepr m.2
  obtain ⟨left, right, hJoined⟩ :=
    exists_intercalate_split (str ",") (texts before') (texts after')
  refine ⟨str "\x7b" ++ left ++ (quoted key ++ str ":"), right ++ str "\x7d", fun value => ?_⟩
  have hMembers : Json.sortedMembers (before ++ (key, value) :: after) =
      before' ++ (key, value.sortKeys) :: after' := by
    rw [← hSorted]
    unfold Json.sortedMembers
    rw [List.map_append, List.map_cons]
  -- only the text of the one member depends on its value
  have hTexts : memberTexts floatRepr (before' ++ (key, value.sortKeys) :: after') =
      texts before' ++ (quoted key ++ str ":" ++ jsonText floatRepr value.sortKeys) ::
        texts after' := by
    rw [memberTexts_eq_map, List.map_append, List.map_cons]
  rw [Json.sortKeys_obj, hMembers, jsonText, hTexts, hJoined]
  simp only [List.append_assoc]

/-- The numbers in members, one by one. -/
theorem memberInts_eq_flatMap (members : List (Str × Json)) :
    Json.memberInts members = members.flatMap fun m => m.2.ints := by
  induction members with
  | nil => rfl
  | cons m members ih => rw [Json.memberInts, ih, List.flatMap_cons]

theorem ints_obj (members : Dict) : (Json.obj members).ints = members.flatMap fun m => m.2.ints := by
  rw [Json.ints, memberInts_eq_flatMap]

/-- Whether an object can be written sees the integers of its members only. -/
theorem writable_member (before after : Dict) (key : Str) {value value' : Json}
    (h : value.ints = value'.ints) :
    (Json.obj (before ++ (key, value) :: after)).writable =
      (Json.obj (before ++ (key, value') :: after)).writable := by
  unfold Json.writable
  rw [ints_obj, ints_obj, List.flatMap_append, List.flatMap_append, List.flatMap_cons,
    List.flatMap_cons, h]

/-- A content hash stands for itself in a JSON text. -/
theorem quoted_hash {hash : Str} (h : isContentHash hash = true) :
    quoted hash = str "\"" ++ hash ++ str "\"" := by
  have hDigits : ∀ c ∈ hash, escapeChar c = [c] := by
    intro c hc
    rw [isContentHash, Bool.and_eq_true, List.all_eq_true] at h
    have hRange := h.2 c hc
    simp only [Bool.or_eq_true, Bool.and_eq_true, decide_eq_true_eq] at hRange
    unfold escapeChar
    rw [if_neg (by omega), if_neg (by omega), if_neg (by omega), if_neg (by omega),
      if_neg (by omega), if_neg (by omega), if_neg (by omega), if_neg (by omega)]
  have hText : hash.flatMap escapeChar = hash := by
    rw [List.flatMap_congr hDigits, List.flatMap_singleton']
  rw [quoted, hText]

-- ---------------------------------------------------------------------------
-- The hash in a context
-- ---------------------------------------------------------------------------

/-- Two outcomes that are the same but for a hash in the text. -/
def SameApartFrom (hash hash' : Str) (outcome outcome' : Option Str) : Prop :=
  (outcome = none ∧ outcome' = none) ∨
    ∃ left right, outcome = some (left ++ hash ++ right) ∧
      outcome' = some (left ++ hash' ++ right)

/-- A context with a hash in its provenance. -/
def hashedContext (before after rest : Dict) (hash : Str) : Dict :=
  (str "provenance", .obj (before ++ (str "snapshot_content_hash", .str hash) :: after)) :: rest

/-- **The hash stands at one place** of the text of a context. -/
theorem renderContext_hash (floatRepr : Rat → Str) (before after rest : Dict) {hash hash' : Str}
    (h : isContentHash hash = true) (h' : isContentHash hash' = true) :
    SameApartFrom hash hash' (renderContext floatRepr (hashedContext before after rest hash))
      (renderContext floatRepr (hashedContext before after rest hash')) := by
  obtain ⟨left, right, hInner⟩ :=
    exists_jsonText_split floatRepr before after (str "snapshot_content_hash")
  obtain ⟨left', right', hOuter⟩ := exists_jsonText_split floatRepr [] rest (str "provenance")
  -- the hash is a string of its own within the provenance
  have hText : ∀ x, isContentHash x = true →
      jsonText floatRepr (Json.obj (hashedContext before after rest x)).sortKeys =
        (left' ++ (left ++ str "\"")) ++ x ++ (str "\"" ++ right ++ right') := by
    intro x hx
    have hOut := hOuter (.obj (before ++ (str "snapshot_content_hash", .str x) :: after))
    rw [List.nil_append, hInner] at hOut
    have hString : jsonText floatRepr (Json.str x).sortKeys = str "\"" ++ x ++ str "\"" := by
      rw [← quoted_hash hx]
      rfl
    rw [hString] at hOut
    unfold hashedContext
    rw [hOut]
    simp only [List.append_assoc]
  -- a hash has no numbers, so both contexts can be written or neither
  have hWritable : (Json.obj (hashedContext before after rest hash)).writable =
      (Json.obj (hashedContext before after rest hash')).writable := by
    refine writable_member [] rest (str "provenance") ?_
    rw [ints_obj, ints_obj, List.flatMap_append, List.flatMap_append]
    rfl
  unfold renderContext
  rw [hWritable]
  split
  · exact .inr ⟨_, _, by rw [hText hash h], by rw [hText hash' h']⟩
  · exact .inl ⟨rfl, rfl⟩

/-- A text keeps its length when its hash is replaced. -/
theorem length_eq_of_hash {hash hash' left right : Str} (h : isContentHash hash = true)
    (h' : isContentHash hash' = true) :
    (left ++ hash ++ right).length = (left ++ hash' ++ right).length := by
  rw [isContentHash, Bool.and_eq_true, beq_iff_eq] at h h'
  simp only [List.length_append, h.1, h'.1]

-- ---------------------------------------------------------------------------
-- The whitelist
-- ---------------------------------------------------------------------------

/-- Two dicts with the same values under some keys. -/
def AgreeOn (keys : List Str) (d d' : Dict) : Prop := ∀ key ∈ keys, Dict.get d key = Dict.get d' key

/-- Two dicts that are related, or two values that are no dicts. -/
def ObjectsBy (R : Dict → Dict → Prop) (value value' : Json) : Prop :=
  (∃ d d', value = .obj d ∧ value' = .obj d' ∧ R d d') ∨
    (value.obj? = none ∧ value'.obj? = none)

/-- Two lists whose items are related one by one, or two values that are no lists. -/
def ArraysBy (R : Json → Json → Prop) (value value' : Json) : Prop :=
  (∃ items items', value = .arr items ∧ value' = .arr items' ∧ List.Forall₂ R items items') ∨
    (value.arr? = none ∧ value'.arr? = none)

/-- Two datasets of a mapping: the same sheet, and the same fields, mapped to any columns. -/
structure SameDataset (d d' : Dict) : Prop where
  sheet : AgreeOn [str "processing_job_id", str "sheet_index", str "sheet_name"] d d'
  fields : ObjectsBy (fun c c' => (c.map Prod.fst).Perm (c'.map Prod.fst))
    (Dict.get d (str "columns")) (Dict.get d' (str "columns"))

/-- Two insight configurations: the same version, goals and datasets. -/
structure SameInsightConfiguration (d d' : Dict) : Prop where
  values : AgreeOn [str "version", str "goals"] d d'
  datasets : ArraysBy (ObjectsBy SameDataset) (Dict.get d (str "datasets"))
    (Dict.get d' (str "datasets"))

/-- Two dashboards: the same identity, and the same currency and period of any configuration. -/
structure SameDashboard (d d' : Dict) : Prop where
  values : AgreeOn [str "id", str "type", str "title"] d d'
  configuration : ObjectsBy (AgreeOn [str "currency", str "period"])
    (Dict.get d (str "configuration")) (Dict.get d' (str "configuration"))
  insight : ObjectsBy SameInsightConfiguration (Dict.get d (str "insight_configuration"))
    (Dict.get d' (str "insight_configuration"))

/-- Two insights: the same values, calculated parts and signals. -/
structure SameInsight (d d' : Dict) : Prop where
  values : AgreeOn [str "contract_version", str "calculation_version", str "dashboard_type",
    str "goals", str "mapped_row_count", str "explainability"] d d'
  calculated : ObjectsBy (AgreeOn [str "kpis", str "status_updates", str "series",
    str "breakdowns", str "tables"]) (Dict.get d (str "calculated")) (Dict.get d' (str "calculated"))
  signals : ObjectsBy (AgreeOn signalKeys) (Dict.get d (str "signals"))
    (Dict.get d' (str "signals"))

/-- Two payloads with an insight that differ only in fields outside the whitelist. -/
structure SamePayload (p p' : Dict) : Prop where
  counts : AgreeOn [str "source_count", str "record_count", str "sheet_count"] p p'
  dashboard : ObjectsBy SameDashboard (Dict.get p (str "dashboard")) (Dict.get p' (str "dashboard"))
  insight : ∃ insight insight', Dict.get p (str "insight") = .obj insight ∧
    Dict.get p' (str "insight") = .obj insight' ∧ SameInsight insight insight'
  sources : ArraysBy (ObjectsBy (AgreeOn sourceKeys)) (Dict.get p (str "sources"))
    (Dict.get p' (str "sources"))

/-- The first items of two arrays that agree. -/
theorem boundedItems_forall₂ {R : Json → Json → Prop} {value value' : Json}
    (h : ArraysBy R value value') (limit : Nat) :
    List.Forall₂ R (boundedItems value limit) (boundedItems value' limit) := by
  rcases h with ⟨items, items', rfl, rfl, hItems⟩ | ⟨hNone, hNone'⟩
  · exact List.forall₂_take limit hItems
  · have hEmpty : ∀ v : Json, v.arr? = none → boundedItems v limit = [] := by
      intro v hv
      cases v with
      | arr items => exact absurd hv (by simp [Json.arr?])
      | _ => rfl
    rw [hEmpty value hNone, hEmpty value' hNone']
    exact .nil

/-- Objects that agree are rewritten alike. -/
theorem mapObjects_congr {R : Dict → Dict → Prop} {rewrite : Dict → Dict}
    (hRewrite : ∀ d d', R d d' → rewrite d = rewrite d') {items items' : List Json}
    (h : List.Forall₂ (ObjectsBy R) items items') :
    mapObjects rewrite items = mapObjects rewrite items' := by
  unfold mapObjects
  induction h with
  | nil => rfl
  | cons hItem _ ih =>
    rw [List.filterMap_cons, List.filterMap_cons, ih]
    rcases hItem with ⟨d, d', rfl, rfl, hR⟩ | ⟨hNone, hNone'⟩
    · show Json.obj (rewrite d) :: _ = Json.obj (rewrite d') :: _
      rw [hRewrite d d' hR]
    · rw [hNone, hNone']

theorem select_congr {keys : List Str} {d d' : Dict} (h : AgreeOn keys d d') :
    select keys d = select keys d' := by
  unfold select
  exact List.map_congr_left fun key hKey => by rw [h key hKey]

/-- A key that the two agree on is read alike. -/
theorem getOf_congr {keys : List Str} {value value' : Json} (h : ObjectsBy (AgreeOn keys) value value')
    {key : Str} (hKey : key ∈ keys) : getOf value key = getOf value' key := by
  rcases h with ⟨d, d', rfl, rfl, hAgree⟩ | ⟨hNone, hNone'⟩
  · exact hAgree key hKey
  · have hNull : ∀ v : Json, v.obj? = none → getOf v key = .null := by
      intro v hv
      cases v with
      | obj d => exact absurd hv (by simp [Json.obj?])
      | _ => rfl
    rw [hNull value hNone, hNull value' hNone']

/-- What is made of a dict sees what the dicts agree on. -/
theorem congr_objectsBy {α : Type*} {R : Dict → Dict → Prop} {f : Json → α} {other : α}
    (hOther : ∀ v, v.obj? = none → f v = other) (hR : ∀ d d', R d d' → f (.obj d) = f (.obj d'))
    {value value' : Json} (h : ObjectsBy R value value') : f value = f value' := by
  rcases h with ⟨d, d', rfl, rfl, hRelated⟩ | ⟨hNone, hNone'⟩
  · exact hR d d' hRelated
  · rw [hOther value hNone, hOther value' hNone']

/-- The datasets that are shown do not see the columns that the fields are mapped to. -/
theorem compactDataset_congr (d d' : Dict) (h : SameDataset d d') :
    compactDataset d = compactDataset d' := by
  have hFields : mappedFields (Dict.get d (str "columns")) =
      mappedFields (Dict.get d' (str "columns")) := by
    have hOther : ∀ v : Json, v.obj? = none → mappedFields v = [] := by
      intro v hv
      cases v with
      | obj c => exact absurd hv (by simp [Json.obj?])
      | _ => rfl
    refine congr_objectsBy hOther (fun c c' hPerm => ?_) h.fields
    simp only [mappedFields]
    rw [sortBy_eq_of_perm hPerm fun a _ b _ hab => hab]
  unfold compactDataset
  rw [select_congr h.sheet, hFields]

/-- The insight configuration, by what is read of it. -/
theorem compactInsightConfiguration_congr {value value' : Json}
    (h : ObjectsBy SameInsightConfiguration value value') :
    compactInsightConfiguration value = compactInsightConfiguration value' := by
  have hOther : ∀ v : Json, v.obj? = none → compactInsightConfiguration v = .null := by
    intro v hv
    cases v with
    | obj d => exact absurd hv (by simp [Json.obj?])
    | _ => rfl
  refine congr_objectsBy hOther (fun c c' hSame => ?_) h
  simp only [compactInsightConfiguration]
  have hDatasets := mapObjects_congr compactDataset_congr
    (boundedItems_forall₂ hSame.datasets 20)
  rw [hDatasets, hSame.values (str "version") (by simp), hSame.values (str "goals") (by simp)]

/-- The configuration, by its currency and its period. -/
theorem compactConfiguration_congr (floatRepr : Rat → Str) {value value' : Json}
    (h : ObjectsBy (AgreeOn [str "currency", str "period"]) value value') :
    compactConfiguration floatRepr value = compactConfiguration floatRepr value' := by
  have hOther : ∀ v : Json, v.obj? = none → compactConfiguration floatRepr v = [] := by
    intro v hv
    cases v with
    | obj d => exact absurd hv (by simp [Json.obj?])
    | _ => rfl
  refine congr_objectsBy hOther (fun c c' hAgree => ?_) h
  simp only [compactConfiguration]
  refine List.filterMap_congr fun key hKey => ?_
  rw [hAgree key hKey]

/-- The dashboard, by what is read of it. -/
theorem compactDashboardContext_congr (floatRepr : Rat → Str) {value value' : Json}
    (h : ObjectsBy SameDashboard value value') :
    compactDashboardContext floatRepr value = compactDashboardContext floatRepr value' := by
  have hOther : ∀ v : Json, v.obj? = none → compactDashboardContext floatRepr v = [] := by
    intro v hv
    cases v with
    | obj d => exact absurd hv (by simp [Json.obj?])
    | _ => rfl
  refine congr_objectsBy hOther (fun d d' hSame => ?_) h
  simp only [compactDashboardContext]
  rw [compactConfiguration_congr floatRepr hSame.configuration,
    compactInsightConfiguration_congr hSame.insight, hSame.values (str "id") (by simp),
    hSame.values (str "type") (by simp), hSame.values (str "title") (by simp)]

/-- The calculated values, by what is read of them. -/
theorem compactCalculated_congr {value value' : Json}
    (h : ObjectsBy (AgreeOn [str "kpis", str "status_updates", str "series", str "breakdowns",
      str "tables"]) value value') : compactCalculated value = compactCalculated value' := by
  have hOther : ∀ v : Json, v.obj? = none → compactCalculated v = [] := by
    intro v hv
    cases v with
    | obj d => exact absurd hv (by simp [Json.obj?])
    | _ => rfl
  refine congr_objectsBy hOther (fun d d' hAgree => ?_) h
  simp only [compactCalculated]
  rw [hAgree (str "kpis") (by simp), hAgree (str "status_updates") (by simp),
    hAgree (str "series") (by simp), hAgree (str "breakdowns") (by simp),
    hAgree (str "tables") (by simp)]

/-- The insight, by what is read of it. -/
theorem insightContext_congr (d d' : Dict) (h : SameInsight d d') :
    insightContext d = insightContext d' := by
  have hSignals : boundedSignals (Dict.get d (str "signals")) 20 =
      boundedSignals (Dict.get d' (str "signals")) 20 := by
    unfold boundedSignals
    exact List.map_congr_left fun key hKey => by rw [getOf_congr h.signals hKey]
  unfold insightContext
  rw [compactCalculated_congr h.calculated, hSignals, h.values (str "contract_version") (by simp),
    h.values (str "calculation_version") (by simp), h.values (str "dashboard_type") (by simp),
    h.values (str "goals") (by simp), h.values (str "mapped_row_count") (by simp),
    h.values (str "explainability") (by simp)]

/-- The evidence, by the insight and the keys of the sources. -/
theorem evidence_congr {insight insight' : Dict} (hInsight : SameInsight insight insight')
    {sources sources' : Json} (hSources : ArraysBy (ObjectsBy (AgreeOn sourceKeys)) sources sources') :
    evidence (.obj insight) sources = evidence (.obj insight') sources' := by
  have hRendered : mapObjects (select sourceKeys) (boundedItems sources 20) =
      mapObjects (select sourceKeys) (boundedItems sources' 20) :=
    mapObjects_congr (fun d d' => @select_congr sourceKeys d d')
      (boundedItems_forall₂ hSources 20)
  simp only [evidence]
  rw [insightContext_congr insight insight' hInsight, hRendered]

-- ---------------------------------------------------------------------------
-- Two snapshots
-- ---------------------------------------------------------------------------

/-- Two snapshots that differ only in the content hash and in payload fields outside the
whitelist. -/
structure SameGrounding (s s' : DashboardSnapshot) : Prop where
  id : s'.id = s.id
  version : s'.version = s.version
  dashboard : s'.dashboardId = s.dashboardId
  business : s'.businessId = s.businessId
  payload : ∃ p p', s.payload = .obj p ∧ s'.payload = .obj p' ∧ SamePayload p p'

/-- A stored snapshot whose content hash is that of its payload. -/
structure ValidSnapshot (settings : SnapshotSettings) (s : DashboardSnapshot) : Prop where
  checks : Schema.checks s = true
  hash : settings.contentHash s.payload = .ok s.contentHash

/-- A snapshot that is valid has a hash in hexadecimal digits. -/
theorem ValidSnapshot.isContentHash {settings : SnapshotSettings} {s : DashboardSnapshot}
    (h : ValidSnapshot settings s) : isContentHash s.contentHash = true := by
  have hChecks := h.checks
  simp only [Schema.checks, Bool.and_eq_true] at hChecks
  exact hChecks.2

variable {settings : SnapshotSettings} {floatRepr : Rat → Str}

/-- **The context of the one snapshot** is that of the other with its hash replaced. -/
theorem fullContext_eq {s s' : DashboardSnapshot} (h : SameGrounding s s') {p p' : Dict}
    (hp : SamePayload p p') :
    fullContext settings floatRepr s' p' =
      fullContext settings floatRepr { s with contentHash := s'.contentHash } p := by
  obtain ⟨insight, insight', hInsight, hInsight', hSame⟩ := hp.insight
  simp only [fullContext, provenance]
  rw [h.id, h.version, h.dashboard, h.business, hInsight, hInsight',
    evidence_congr hSame hp.sources, compactDashboardContext_congr floatRepr hp.dashboard,
    hp.counts (str "source_count") (by simp), hp.counts (str "record_count") (by simp),
    hp.counts (str "sheet_count") (by simp)]

/-- The part of a context beside its provenance. -/
theorem exists_hashedContext (s : DashboardSnapshot) (p : Dict) :
    ∃ before after rest, ∀ hash,
      fullContext settings floatRepr { s with contentHash := hash } p =
        hashedContext before after rest hash :=
  ⟨[(str "snapshot_id", .str (settings.uuidStr s.id)), (str "snapshot_version", .int s.version)],
    [(str "dashboard_id", .str (settings.uuidStr s.dashboardId)),
      (str "business_id", .str (settings.uuidStr s.businessId)),
      (str "source_count", Dict.get p (str "source_count")),
      (str "record_count", Dict.get p (str "record_count")),
      (str "sheet_count", Dict.get p (str "sheet_count"))],
    (str "dashboard", .obj (compactDashboardContext floatRepr (Dict.get p (str "dashboard")))) ::
      evidence (Dict.get p (str "insight")) (Dict.get p (str "sources")),
    fun _ => rfl⟩

/-- The provenance is the same in the reduced form. -/
theorem reducedContext_hashed (before after rest : Dict) (hash : Str) :
    reducedContext (hashedContext before after rest hash) =
      hashedContext before after (reducedContext rest) hash := by
  have hInsight : Dict.get (hashedContext before after rest hash) (str "insight") =
      Dict.get rest (str "insight") := Dict.getD_cons_of_ne _ _ _ (by decide)
  have hSources : Dict.get (hashedContext before after rest hash) (str "sources") =
      Dict.get rest (str "sources") := Dict.getD_cons_of_ne _ _ _ (by decide)
  have hAssign : ∀ key value, key ≠ str "provenance" →
      assign (hashedContext before after rest hash) key value =
        hashedContext before after (assign rest key value) hash := by
    intro key value hKey
    unfold assign hashedContext
    rw [List.map_cons, if_neg hKey.symm]
  unfold reducedContext
  rw [hInsight, hSources]
  split
  · rw [hAssign _ _ (by decide)]
  · rw [hAssign _ _ (by decide)]

/-- A context that is sent has at most 22,000 characters. -/
theorem length_dashboardGroundingContext {s : DashboardSnapshot} {text : Str}
    (h : dashboardGroundingContext settings floatRepr s = some text) :
    text.length ≤ aiGroundingMaxCharacters := by
  simp only [dashboardGroundingContext, Option.bind_eq_bind, Option.bind_eq_some_iff] at h
  obtain ⟨payload, -, computedHash, -, h⟩ := h
  split at h
  · exact absurd h (by simp)
  · simp only [Option.bind_eq_some_iff] at h
    obtain ⟨rendered, -, h⟩ := h
    split at h
    · next hShort =>
      obtain rfl := Option.some.inj h
      exact hShort
    · simp only [Option.bind_eq_some_iff] at h
      obtain ⟨reduced, -, h⟩ := h
      split at h
      · exact absurd h (by simp)
      · next hShort =>
        obtain rfl := Option.some.inj h
        exact Nat.not_lt.mp hShort

/-- What is sent of a valid snapshot: the full context, or the reduced one. -/
theorem dashboardGroundingContext_eq {s : DashboardSnapshot} (h : ValidSnapshot settings s)
    {p : Dict} (hp : s.payload = .obj p) :
    dashboardGroundingContext settings floatRepr s =
      (renderContext floatRepr (fullContext settings floatRepr s p)).bind fun rendered =>
        if rendered.length ≤ aiGroundingMaxCharacters then some rendered
        else (renderContext floatRepr (reducedContext (fullContext settings floatRepr s p))).bind
          fun reduced => if aiGroundingMaxCharacters < reduced.length then none else some reduced := by
  have hHash : (settings.contentHash s.payload).toOption = some s.contentHash := by
    rw [h.hash]
    rfl
  unfold dashboardGroundingContext
  rw [hHash, hp]
  simp only [Json.obj?, Option.bind_eq_bind, Option.bind_some, ne_eq, not_true_eq_false, if_false]

/-- The choice between the forms, of two snapshots whose forms are the same but for the hash. -/
theorem SameApartFrom.choice {hash hash' : Str} (h : isContentHash hash = true)
    (h' : isContentHash hash' = true) {full full' reduced reduced' : Option Str}
    (hFull : SameApartFrom hash hash' full full')
    (hReduced : SameApartFrom hash hash' reduced reduced') :
    SameApartFrom hash hash'
      (full.bind fun text => if text.length ≤ aiGroundingMaxCharacters then some text
        else reduced.bind fun text =>
          if aiGroundingMaxCharacters < text.length then none else some text)
      (full'.bind fun text => if text.length ≤ aiGroundingMaxCharacters then some text
        else reduced'.bind fun text =>
          if aiGroundingMaxCharacters < text.length then none else some text) := by
  rcases hFull with ⟨rfl, rfl⟩ | ⟨left, right, rfl, rfl⟩
  · exact .inl ⟨rfl, rfl⟩
  · simp only [Option.bind_some]
    -- two hashes are of one length, so both contexts are chosen or neither
    rw [length_eq_of_hash h h']
    split
    · exact .inr ⟨left, right, rfl, rfl⟩
    · rcases hReduced with ⟨rfl, rfl⟩ | ⟨left', right', rfl, rfl⟩
      · exact .inl ⟨rfl, rfl⟩
      · simp only [Option.bind_some]
        rw [length_eq_of_hash h h']
        split
        · exact .inl ⟨rfl, rfl⟩
        · exact .inr ⟨left', right', rfl, rfl⟩

/-- The two forms of two snapshots that show the same. -/
theorem forms_sameApart {s s' : DashboardSnapshot} (h : SameGrounding s s')
    (hs : isContentHash s.contentHash = true) (hs' : isContentHash s'.contentHash = true)
    {p p' : Dict} (hp : SamePayload p p') :
    SameApartFrom s.contentHash s'.contentHash
        (renderContext floatRepr (fullContext settings floatRepr s p))
        (renderContext floatRepr (fullContext settings floatRepr s' p')) ∧
      SameApartFrom s.contentHash s'.contentHash
        (renderContext floatRepr (reducedContext (fullContext settings floatRepr s p)))
        (renderContext floatRepr (reducedContext (fullContext settings floatRepr s' p'))) := by
  obtain ⟨before, after, rest, hContext⟩ := @exists_hashedContext settings floatRepr s p
  have hOne : fullContext settings floatRepr s p = hashedContext before after rest s.contentHash :=
    hContext s.contentHash
  have hOther : fullContext settings floatRepr s' p' =
      hashedContext before after rest s'.contentHash :=
    (fullContext_eq h hp).trans (hContext s'.contentHash)
  rw [hOne, hOther, reducedContext_hashed, reducedContext_hashed]
  exact ⟨renderContext_hash floatRepr before after rest hs hs',
    renderContext_hash floatRepr before after (reducedContext rest) hs hs'⟩

/-- **Grounding without interference.** Two valid insight snapshots that differ only outside
the whitelist have the same full context, the same reduced context and the same context that
is sent, apart from the content hash; and the context of any snapshot that is sent has at most
22,000 characters. -/
theorem grounding_noninterference (settings : SnapshotSettings) (floatRepr : Rat → Str) :
    (∀ s s' : DashboardSnapshot, ValidSnapshot settings s → ValidSnapshot settings s' →
      SameGrounding s s' →
        (∀ p p', s.payload = .obj p → s'.payload = .obj p' →
          SameApartFrom s.contentHash s'.contentHash
              (renderContext floatRepr (fullContext settings floatRepr s p))
              (renderContext floatRepr (fullContext settings floatRepr s' p')) ∧
            SameApartFrom s.contentHash s'.contentHash
              (renderContext floatRepr (reducedContext (fullContext settings floatRepr s p)))
              (renderContext floatRepr (reducedContext (fullContext settings floatRepr s' p')))) ∧
          SameApartFrom s.contentHash s'.contentHash
            (dashboardGroundingContext settings floatRepr s)
            (dashboardGroundingContext settings floatRepr s')) ∧
      ∀ (s : DashboardSnapshot) (text : Str),
        dashboardGroundingContext settings floatRepr s = some text →
          text.length ≤ aiGroundingMaxCharacters := by
  refine ⟨fun s s' hs hs' hSame => ?_, fun s text h => length_dashboardGroundingContext h⟩
  obtain ⟨p, p', hp, hp', hPayload⟩ := hSame.payload
  -- both forms of the context differ in the hash alone
  have hForms := @forms_sameApart settings floatRepr s s' hSame hs.isContentHash hs'.isContentHash
    p p' hPayload
  refine ⟨fun q q' hq hq' => ?_, ?_⟩
  · obtain rfl := Json.obj.inj (hq.symm.trans hp)
    obtain rfl := Json.obj.inj (hq'.symm.trans hp')
    exact hForms
  · rw [dashboardGroundingContext_eq hs hp, dashboardGroundingContext_eq hs' hp']
    exact hForms.1.choice hs.isContentHash hs'.isContentHash hForms.2

/-- The context that a claim puts into its prompt is the rendered one of the stored snapshot. -/
theorem ofConversation_eq_some {settings : SnapshotSettings} {floatRepr : Rat → Str}
    {snapshots : Table DashboardSnapshot} {scope : Uuid} {conversation : AIConversation}
    {text : Str} (h : ofConversation settings floatRepr snapshots scope conversation =
      some (some text)) :
    ∃ s ∈ snapshots, s.businessId = scope ∧ conversation.dashboardSnapshotId = some s.id ∧
      dashboardGroundingContext settings floatRepr s = some text := by
  unfold ofConversation at h
  split at h
  · cases h
  · next snapshotId hSnapshot =>
    obtain ⟨s, hFind, hRest⟩ := Option.bind_eq_some_iff.mp h
    have hIs := Table.prop_of_find? hFind
    rw [Bool.and_eq_true, beq_iff_eq, beq_iff_eq] at hIs
    obtain ⟨hBusiness, rfl⟩ := hIs
    split at hRest
    · cases hRest
    · obtain ⟨text', hText, hSame⟩ := Option.map_eq_some_iff.mp hRest
      rw [Option.some.inj hSame] at hText
      exact ⟨s, Table.mem_of_find? hFind, hBusiness, hSnapshot, hText⟩

/-- **Grounded prompts.** In an execution over stored snapshots the context leaves room for the
conversation, so a claim builds a prompt of any history. -/
theorem boundedPrompt_of_grounded {settings : SnapshotSettings} {floatRepr : Rat → Str}
    {config : ExecutionConfig} {snapshots : Table DashboardSnapshot} {scope : Uuid}
    {conversation : AIConversation} {context : Option Str}
    (h : (executionConfig settings floatRepr config snapshots).groundingContext scope conversation =
      some context) (history : List AIMessage) :
    ∃ prompt, boundedPrompt history context = some prompt := by
  have hMost : aiPromptMaxCharacters = 30000 := rfl
  unfold boundedPrompt
  cases context with
  | none =>
    refine ⟨_, if_neg ?_⟩
    rw [List.length_nil]
    decide
  | some text =>
    obtain ⟨s, -, -, -, hText⟩ := ofConversation_eq_some h
    have hLength := length_dashboardGroundingContext hText
    have hLimit : aiGroundingMaxCharacters = 22000 := rfl
    -- the context and the texts around it leave room below the limit
    have hFrame : (str "Immutable dashboard snapshot context (JSON):\n").length = 45 ∧
        (str "\n\nConversation:\n").length = 16 := by
      decide
    refine ⟨_, if_neg ?_⟩
    rw [List.length_append, List.length_append, hFrame.1, hFrame.2]
    omega

end Grounding

-- ---------------------------------------------------------------------------
-- A whole case
-- ---------------------------------------------------------------------------

namespace GroundingSample

open Grounding

/-- An identifier as a JSON string. -/
def identifier (id : Uuid) : Json := .str (uuidText id)

/-- A payload; the theme, the storage version and the aggregate are not for the provider. -/
def payload (theme storage aggregate : Str) : Dict :=
  [(str "format", .str dashboardSnapshotFormat),
    (str "schema_version", .int 1),
    (str "dashboard", .obj
      [(str "id", identifier 2), (str "type", .str (str "executive_summary")),
        (str "title", .str (str "Cash")),
        (str "configuration", .obj
          [(str "currency", .str (str "USD")), (str "theme", .str theme)]),
        (str "insight_configuration", .null)]),
    (str "source_count", .int 1),
    (str "record_count", .int 1),
    (str "sheet_count", .int 1),
    (str "sources", .arr [.obj
      [(str "processing_job_id", identifier 7), (str "report_upload_id", identifier 8),
        (str "filename", .str (str "cash.csv")),
        (str "normalized_storage_version_id", .str storage),
        (str "record_count", .int 1), (str "sheet_count", .int 1),
        (str "aggregate", .obj [(str "secret", .str aggregate)])]]),
    (str "insight", .obj
      [(str "contract_version", .int 1), (str "calculation_version", .int 1),
        (str "dashboard_type", .str (str "executive_summary")),
        (str "goals", .arr []), (str "mapped_row_count", .int 1),
        (str "calculated", .obj
          [(str "kpis", .arr [.obj
            [(str "key", .str (str "revenue")), (str "value_decimal", .str (str "1000"))]]),
            (str "series", .arr []), (str "breakdowns", .arr []), (str "tables", .arr [])]),
        (str "signals", .obj
          [(str "anomalies", .arr []), (str "risks", .arr []),
            (str "recommendations", .arr [])]),
        (str "explainability", .obj [])])]

def floatRepr (_ : Rat) : Str := str "0.0"

/-- The digests are those of the two payloads, which take 845 and 851 bytes. -/
def settings : SnapshotSettings where
  mappedProcessingJobIds _ _ := none
  readArtifacts _ _ _ := .error .artifact
  canonicalJsonBytes value :=
    if value.writable = true then encode? (jsonText floatRepr value.sortKeys) else none
  sha256 bytes :=
    if bytes.length = 845 then
      str "34903bba4b129cc52b5a993e249e09748c6ad85f90bea452f41d8579e90005d9"
    else str "8abde9e984ed4f2d3b0a160507292ed084540e11185ca7dbedc3dc755f42821e"
  uuidStr := uuidText

def snapshot (payload : Dict) (contentHash : Str) : DashboardSnapshot where
  id := 1
  businessId := 3
  dashboardId := 2
  version := 1
  payload := .obj payload
  contentHash := contentHash
  createdByUserId := 4
  createdAt := 0

def dark : DashboardSnapshot :=
  snapshot (payload (str "dark") (str "v1") (str "1"))
    (str "34903bba4b129cc52b5a993e249e09748c6ad85f90bea452f41d8579e90005d9")

def light : DashboardSnapshot :=
  snapshot (payload (str "light") (str "v22") (str "12345"))
    (str "8abde9e984ed4f2d3b0a160507292ed084540e11185ca7dbedc3dc755f42821e")

theorem valid_dark : ValidSnapshot settings dark :=
  ⟨by decide +kernel, by decide +kernel⟩

theorem valid_light : ValidSnapshot settings light :=
  ⟨by decide +kernel, by decide +kernel⟩

/-- The two payloads show the same. -/
theorem samePayload (theme theme' storage storage' aggregate aggregate' : Str) :
    SamePayload (payload theme storage aggregate) (payload theme' storage' aggregate') where
  counts := by
    -- theme, storage key and aggregates are not among the keys
    intro key hKey
    simp only [List.mem_cons, List.not_mem_nil, or_false] at hKey
    rcases hKey with rfl | rfl | rfl
    · rfl
    · rfl
    · rfl
  dashboard := by
    refine .inl ⟨_, _, rfl, rfl, ?_, .inl ⟨_, _, rfl, rfl, ?_⟩, .inr ⟨rfl, rfl⟩⟩
    · intro key hKey
      simp only [List.mem_cons, List.not_mem_nil, or_false] at hKey
      rcases hKey with rfl | rfl | rfl
      · rfl
      · rfl
      · rfl
    · intro key hKey
      simp only [List.mem_cons, List.not_mem_nil, or_false] at hKey
      rcases hKey with rfl | rfl
      · rfl
      · rfl
  insight := by
    refine ⟨_, _, rfl, rfl, fun _ _ => rfl, .inl ⟨_, _, rfl, rfl, fun _ _ => rfl⟩,
      .inl ⟨_, _, rfl, rfl, fun _ _ => rfl⟩⟩
  sources := by
    refine .inl ⟨_, _, rfl, rfl, .cons (.inl ⟨_, _, rfl, rfl, ?_⟩) .nil⟩
    intro key hKey
    simp only [sourceKeys, List.mem_cons, List.not_mem_nil, or_false] at hKey
    rcases hKey with rfl | rfl | rfl | rfl | rfl
    · rfl
    · rfl
    · rfl
    · rfl
    · rfl

/-- The two snapshots agree on what is read of them. -/
theorem sameGrounding : SameGrounding dark light where
  id := rfl
  version := rfl
  dashboard := rfl
  business := rfl
  payload := ⟨_, _, rfl, rfl, samePayload _ _ _ _ _ _⟩

end GroundingSample

open Grounding GroundingSample in
/-- Two snapshots with different themes, storage versions and aggregates. -/
theorem grounding_sample :
    (dashboardGroundingContext settings floatRepr dark).isSome = true ∧
      SameApartFrom dark.contentHash light.contentHash
        (dashboardGroundingContext settings floatRepr dark)
        (dashboardGroundingContext settings floatRepr light) :=
  ⟨by decide +kernel,
    ((grounding_noninterference settings floatRepr).1 dark light valid_dark valid_light
      sameGrounding).2⟩

end SpikeBackend
