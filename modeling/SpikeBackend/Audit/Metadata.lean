import SpikeBackend.Model.AdminAudit

/-!
# The metadata of an audit event

The validator goes through a value once and carries one count of items along. What it accepts can be
said of the nodes of the value, at whatever depth they are.

* `validateMetadataValue_iff` — from any depth and any count, the count that comes out;
* `metadata_validation_exact` — the validator accepts exactly the admissible values;
* `validateAdminAuditMetadata_iff` — what may be recorded with an event.
-/

namespace SpikeBackend

open Text Outcome

variable {lib : AuditLibrary}

-- ---------------------------------------------------------------------------
-- The nodes of a value
-- ---------------------------------------------------------------------------

/-- A node of a value, at its depth: the value itself, or a node of one of its parts. -/
inductive NodeAt : MetadataValue → Nat → MetadataValue → Prop
  | root (value : MetadataValue) : NodeAt value 0 value
  | item {items : List MetadataValue} {item node : MetadataValue} {depth : Nat} :
      item ∈ items → NodeAt item depth node → NodeAt (.list items) (depth + 1) node
  | member {members : List (MetadataKey × MetadataValue)} {m : MetadataKey × MetadataValue}
      {node : MetadataValue} {depth : Nat} :
      m ∈ members → NodeAt m.2 depth node → NodeAt (.dict members) (depth + 1) node

mutual

/-- The sizes of all lists and dicts in a value. -/
def MetadataValue.sizes : MetadataValue → List Nat
  | .list items => items.length :: itemSizes items
  | .dict members => members.length :: memberSizes members
  | _ => []

def MetadataValue.itemSizes : List MetadataValue → List Nat
  | [] => []
  | item :: items => item.sizes ++ itemSizes items

def MetadataValue.memberSizes : List (MetadataKey × MetadataValue) → List Nat
  | [] => []
  | (_, item) :: members => item.sizes ++ memberSizes members

end

/-- A key that may be recorded. -/
def AdmissibleKey (lib : AuditLibrary) (key : MetadataKey) : Prop :=
  ∃ s, key = .str s ∧ 1 ≤ s.length ∧ s.length ≤ adminAuditMetadataMaxKeyLength ∧
    metadataKeyIsSensitive lib s = false

/-- A node that may be recorded, its parts apart. -/
def AdmissibleNode (lib : AuditLibrary) : MetadataValue → Prop
  | .none | .bool _ | .int _ | .list _ => True
  | .float x => x.isSome = true
  | .str s => s.length ≤ adminAuditMetadataMaxStringLength
  | .dict members => ∀ m ∈ members, AdmissibleKey lib m.1
  | .other => False

/-- **What may be recorded.** Nothing of a value is too deep, its lists and dicts are not too large
together, and at every depth the strings are short enough, the numbers finite, and the keys short
strings that are not sensitive. -/
structure Admissible (lib : AuditLibrary) (value : MetadataValue) : Prop where
  depth : ∀ depth node, NodeAt value depth node → depth ≤ adminAuditMetadataMaxDepth
  items : value.sizes.sum ≤ adminAuditMetadataMaxItems
  json : ∀ depth, ¬NodeAt value depth .other
  strings : ∀ depth s, NodeAt value depth (.str s) →
    s.length ≤ adminAuditMetadataMaxStringLength
  numbers : ∀ depth x, NodeAt value depth (.float x) → x.isSome = true
  keys : ∀ depth members, NodeAt value depth (.dict members) →
    ∀ m ∈ members, AdmissibleKey lib m.1

/-- Every node of a value that is at `depth` itself. -/
def AdmissibleFrom (lib : AuditLibrary) (depth : Nat) (value : MetadataValue) : Prop :=
  ∀ d node, NodeAt value d node → depth + d ≤ adminAuditMetadataMaxDepth ∧ AdmissibleNode lib node

/-- Admissible at all is few enough items and admissible from depth zero. -/
theorem admissible_iff {value : MetadataValue} : Admissible lib value ↔
    value.sizes.sum ≤ adminAuditMetadataMaxItems ∧ AdmissibleFrom lib 0 value := by
  constructor
  · intro h
    refine ⟨h.items, fun d node hNode => ⟨(Nat.zero_add d).symm ▸ h.depth d node hNode, ?_⟩⟩
    -- Each clause of the definition is about one kind of node.
    cases node with
    | none => trivial
    | bool b => trivial
    | int n => trivial
    | float x => exact h.numbers d x hNode
    | str s => exact h.strings d s hNode
    | list items => trivial
    | dict members => exact h.keys d members hNode
    | other => exact h.json d hNode
  · rintro ⟨hItems, hNodes⟩
    refine ⟨fun d node hNode => ?_, hItems, fun d hNode => (hNodes d _ hNode).2,
      fun d s hNode => (hNodes d _ hNode).2, fun d x hNode => (hNodes d _ hNode).2,
      fun d members hNode => (hNodes d _ hNode).2⟩
    have hDepth := (hNodes d node hNode).1
    rw [Nat.zero_add] at hDepth
    exact hDepth

-- ---------------------------------------------------------------------------
-- The parts of a value
-- ---------------------------------------------------------------------------

/-- A value without parts. -/
theorem admissibleFrom_leaf {depth : Nat} {value : MetadataValue}
    (hLeaf : ∀ d node, NodeAt value d node → d = 0 ∧ node = value) :
    AdmissibleFrom lib depth value ↔
      depth ≤ adminAuditMetadataMaxDepth ∧ AdmissibleNode lib value := by
  constructor
  · intro h
    exact h 0 value (.root value)
  · rintro ⟨hDepth, hNode⟩ d node hAt
    obtain ⟨rfl, rfl⟩ := hLeaf d node hAt
    exact ⟨hDepth, hNode⟩

/-- A list is admissible from a depth when its items are from the next. -/
theorem admissibleFrom_list {depth : Nat} {items : List MetadataValue} :
    AdmissibleFrom lib depth (.list items) ↔ depth ≤ adminAuditMetadataMaxDepth ∧
      ∀ item ∈ items, AdmissibleFrom lib (depth + 1) item := by
  constructor
  · intro h
    refine ⟨(h 0 _ (.root _)).1, fun item hItem d node hNode => ?_⟩
    obtain ⟨hDepth, hAdmissible⟩ := h (d + 1) node (.item hItem hNode)
    exact ⟨by omega, hAdmissible⟩
  · rintro ⟨hDepth, hItems⟩ d node hNode
    -- The list itself, or a node of one of its items.
    cases hNode with
    | root => exact ⟨hDepth, trivial⟩
    | item hItem hNode =>
      obtain ⟨hBelow, hAdmissible⟩ := hItems _ hItem _ node hNode
      exact ⟨by omega, hAdmissible⟩

/-- An object is admissible from a depth when its keys are and its members are from the next. -/
theorem admissibleFrom_dict {depth : Nat} {members : List (MetadataKey × MetadataValue)} :
    AdmissibleFrom lib depth (.dict members) ↔ depth ≤ adminAuditMetadataMaxDepth ∧
      ∀ m ∈ members, AdmissibleKey lib m.1 ∧ AdmissibleFrom lib (depth + 1) m.2 := by
  constructor
  · intro h
    obtain ⟨hDepth, hKeys⟩ := h 0 _ (.root _)
    refine ⟨hDepth, fun m hm => ⟨hKeys m hm, fun d node hNode => ?_⟩⟩
    obtain ⟨hBelow, hAdmissible⟩ := h (d + 1) node (.member hm hNode)
    exact ⟨by omega, hAdmissible⟩
  · rintro ⟨hDepth, hMembers⟩ d node hNode
    cases hNode with
    | root => exact ⟨hDepth, fun m hm => (hMembers m hm).1⟩
    | member hm hNode =>
      obtain ⟨hBelow, hAdmissible⟩ := (hMembers _ hm).2 _ node hNode
      exact ⟨by omega, hAdmissible⟩

-- ---------------------------------------------------------------------------
-- The validator
-- ---------------------------------------------------------------------------

/-- The key check accepts exactly the admissible keys. -/
theorem validateMetadataKey_eq_ok {key : MetadataKey} {u : Unit} :
    validateMetadataKey lib key = .ok u ↔ AdmissibleKey lib key := by
  -- A key that is no text is refused.
  cases key with
  | other =>
    constructor
    · intro h
      cases h
    · rintro ⟨s, hKey, -⟩
      cases hKey
  | str s =>
    simp only [validateMetadataKey, bind_eq_ok, ensure_eq_ok]
    constructor
    · rintro ⟨-, ⟨hLow, hHigh⟩, hSensitive⟩
      exact ⟨s, rfl, hLow, hHigh, hSensitive⟩
    · rintro ⟨t, hKey, hLow, hHigh, hSensitive⟩
      obtain rfl := MetadataKey.str.inj hKey
      exact ⟨(), ⟨hLow, hHigh⟩, hSensitive⟩

/-- What the validator says of a part: the count goes up by the sizes, within the limit. -/
def Counted (itemCounter total counted : Nat) : Prop :=
  counted = itemCounter + total ∧ counted ≤ adminAuditMetadataMaxItems

/-- The validator on a value without parts. -/
theorem leaf_iff {value : MetadataValue} {depth itemCounter counted : Nat}
    {check : Except AdminAuditMetadataError Unit} {e : AdminAuditMetadataError}
    (hCounter : itemCounter ≤ adminAuditMetadataMaxItems) (hSizes : value.sizes = [])
    (hLeaf : ∀ d node, NodeAt value d node → d = 0 ∧ node = value)
    (hCheck : check = .ok () ↔ AdmissibleNode lib value) :
    (do
      ensure (depth ≤ adminAuditMetadataMaxDepth) e
      check
      pure itemCounter) = .ok counted ↔
        Counted itemCounter value.sizes.sum counted ∧ AdmissibleFrom lib depth value := by
  simp only [bind_eq_ok, ensure_eq_ok, admissibleFrom_leaf hLeaf, ← hCheck, Counted, hSizes]
  constructor
  · rintro ⟨-, hDepth, _, hOk, h⟩
    -- A leaf counts nothing: the counter is returned as it came.
    obtain rfl := Except.ok.inj h
    exact ⟨⟨rfl, hCounter⟩, hDepth, hOk⟩
  · rintro ⟨⟨rfl, -⟩, hDepth, hOk⟩
    exact ⟨(), hDepth, (), hOk, rfl⟩

mutual

/-- **The validator**, from any depth and any count; the induction is on the value. -/
theorem validateMetadataValue_iff : ∀ (value : MetadataValue) {depth itemCounter counted : Nat},
    itemCounter ≤ adminAuditMetadataMaxItems →
      (validateMetadataValue lib value depth itemCounter = .ok counted ↔
        Counted itemCounter value.sizes.sum counted ∧ AdmissibleFrom lib depth value)
  | .none, _, _, _, hCounter => by
    have hLeaf : ∀ d node, NodeAt .none d node → d = 0 ∧ node = .none := by
      intro d node h
      cases h
      exact ⟨rfl, rfl⟩
    exact @leaf_iff lib .none _ _ _ (.ok ()) _ hCounter rfl hLeaf ⟨fun _ => trivial, fun _ => rfl⟩
  | .bool b, _, _, _, hCounter => by
    have hLeaf : ∀ d node, NodeAt (.bool b) d node → d = 0 ∧ node = .bool b := by
      intro d node h
      cases h
      exact ⟨rfl, rfl⟩
    exact @leaf_iff lib (.bool b) _ _ _ (.ok ()) _ hCounter rfl hLeaf
      ⟨fun _ => trivial, fun _ => rfl⟩
  | .int n, _, _, _, hCounter => by
    have hLeaf : ∀ d node, NodeAt (.int n) d node → d = 0 ∧ node = .int n := by
      intro d node h
      cases h
      exact ⟨rfl, rfl⟩
    exact @leaf_iff lib (.int n) _ _ _ (.ok ()) _ hCounter rfl hLeaf
      ⟨fun _ => trivial, fun _ => rfl⟩
  | .float x, _, _, _, hCounter => by
    have hLeaf : ∀ d node, NodeAt (.float x) d node → d = 0 ∧ node = .float x := by
      intro d node h
      cases h
      exact ⟨rfl, rfl⟩
    exact leaf_iff hCounter rfl hLeaf ensure_eq_ok
  | .str s, _, _, _, hCounter => by
    have hLeaf : ∀ d node, NodeAt (.str s) d node → d = 0 ∧ node = .str s := by
      intro d node h
      cases h
      exact ⟨rfl, rfl⟩
    exact leaf_iff hCounter rfl hLeaf ensure_eq_ok
  | .other, _, _, _, hCounter => by
    have hLeaf : ∀ d node, NodeAt .other d node → d = 0 ∧ node = .other := by
      intro d node h
      cases h
      exact ⟨rfl, rfl⟩
    have hCheck : ∀ e, (Except.error e : Except AdminAuditMetadataError Unit) = .ok () ↔
        AdmissibleNode lib .other := by
      intro e
      constructor
      · intro h
        cases h
      · exact False.elim
    exact leaf_iff hCounter rfl hLeaf (hCheck _)
  | .list items, depth, itemCounter, counted, _ => by
    -- The items are counted before they are looked at.
    have hSizes : (MetadataValue.list items).sizes.sum =
        items.length + (MetadataValue.itemSizes items).sum := List.sum_cons
    rw [admissibleFrom_list, hSizes]
    simp only [validateMetadataValue, bind_eq_ok, ensure_eq_ok, Counted]
    constructor
    · rintro ⟨-, hDepth, -, hRoom, h⟩
      obtain ⟨⟨hEq, hLe⟩, hItems⟩ := (validateMetadataItems_iff items hRoom).mp h
      exact ⟨⟨by omega, hLe⟩, hDepth, hItems⟩
    · rintro ⟨⟨hEq, hLe⟩, hDepth, hItems⟩
      have hRoom : itemCounter + items.length ≤ adminAuditMetadataMaxItems := by omega
      refine ⟨(), hDepth, (), hRoom, (validateMetadataItems_iff items hRoom).mpr ⟨⟨?_, hLe⟩, hItems⟩⟩
      omega
  | .dict members, depth, itemCounter, counted, _ => by
    have hSizes : (MetadataValue.dict members).sizes.sum =
        members.length + (MetadataValue.memberSizes members).sum := List.sum_cons
    rw [admissibleFrom_dict, hSizes]
    simp only [validateMetadataValue, bind_eq_ok, ensure_eq_ok, Counted]
    constructor
    · rintro ⟨-, hDepth, -, hRoom, h⟩
      obtain ⟨⟨hEq, hLe⟩, hMembers⟩ := (validateMetadataMembers_iff members hRoom).mp h
      exact ⟨⟨by omega, hLe⟩, hDepth, hMembers⟩
    · rintro ⟨⟨hEq, hLe⟩, hDepth, hMembers⟩
      have hRoom : itemCounter + members.length ≤ adminAuditMetadataMaxItems := by omega
      refine ⟨(), hDepth, (), hRoom,
        (validateMetadataMembers_iff members hRoom).mpr ⟨⟨?_, hLe⟩, hMembers⟩⟩
      omega

/-- The items of a list, one after the other, with the counter passed on. -/
theorem validateMetadataItems_iff : ∀ (items : List MetadataValue)
    {depth itemCounter counted : Nat}, itemCounter ≤ adminAuditMetadataMaxItems →
      (validateMetadataItems lib items depth itemCounter = .ok counted ↔
        Counted itemCounter (MetadataValue.itemSizes items).sum counted ∧
          ∀ item ∈ items, AdmissibleFrom lib depth item)
  | [], _, itemCounter, counted, hCounter => by
    constructor
    · intro h
      obtain rfl := Except.ok.inj h
      exact ⟨⟨rfl, hCounter⟩, fun _ hItem => absurd hItem List.not_mem_nil⟩
    · rintro ⟨⟨rfl, -⟩, -⟩
      rfl
  | item :: items, depth, itemCounter, counted, hCounter => by
    rw [validateMetadataItems, MetadataValue.itemSizes, List.sum_append, bind_eq_ok,
      List.forall_mem_cons]
    constructor
    · rintro ⟨next, hItem, hRest⟩
      obtain ⟨⟨hNext, hRoom⟩, hFirst⟩ := (validateMetadataValue_iff item hCounter).mp hItem
      obtain ⟨⟨hEq, hLe⟩, hItems⟩ := (validateMetadataItems_iff items hRoom).mp hRest
      exact ⟨⟨by omega, hLe⟩, hFirst, hItems⟩
    · rintro ⟨⟨hEq, hLe⟩, hFirst, hItems⟩
      -- There is room for the first item, since there is for all.
      have hRoom : itemCounter + item.sizes.sum ≤ adminAuditMetadataMaxItems := by omega
      refine ⟨itemCounter + item.sizes.sum,
        (validateMetadataValue_iff item hCounter).mpr ⟨⟨rfl, hRoom⟩, hFirst⟩,
        (validateMetadataItems_iff items hRoom).mpr ⟨⟨?_, hLe⟩, hItems⟩⟩
      omega

/-- The members of an object, key first, with the counter passed on. -/
theorem validateMetadataMembers_iff : ∀ (members : List (MetadataKey × MetadataValue))
    {depth itemCounter counted : Nat}, itemCounter ≤ adminAuditMetadataMaxItems →
      (validateMetadataMembers lib members depth itemCounter = .ok counted ↔
        Counted itemCounter (MetadataValue.memberSizes members).sum counted ∧
          ∀ m ∈ members, AdmissibleKey lib m.1 ∧ AdmissibleFrom lib depth m.2)
  | [], _, itemCounter, counted, hCounter => by
    constructor
    · intro h
      obtain rfl := Except.ok.inj h
      exact ⟨⟨rfl, hCounter⟩, fun _ hm => absurd hm List.not_mem_nil⟩
    · rintro ⟨⟨rfl, -⟩, -⟩
      rfl
  | (key, item) :: members, depth, itemCounter, counted, hCounter => by
    simp only [validateMetadataMembers, bind_eq_ok, validateMetadataKey_eq_ok]
    rw [MetadataValue.memberSizes, List.sum_append, List.forall_mem_cons]
    constructor
    · rintro ⟨-, hKey, next, hItem, hRest⟩
      obtain ⟨⟨hNext, hRoom⟩, hFirst⟩ := (validateMetadataValue_iff item hCounter).mp hItem
      obtain ⟨⟨hEq, hLe⟩, hMembers⟩ := (validateMetadataMembers_iff members hRoom).mp hRest
      exact ⟨⟨by omega, hLe⟩, ⟨hKey, hFirst⟩, hMembers⟩
    · rintro ⟨⟨hEq, hLe⟩, ⟨hKey, hFirst⟩, hMembers⟩
      have hRoom : itemCounter + item.sizes.sum ≤ adminAuditMetadataMaxItems := by omega
      refine ⟨(), hKey, itemCounter + item.sizes.sum,
        (validateMetadataValue_iff item hCounter).mpr ⟨⟨rfl, hRoom⟩, hFirst⟩,
        (validateMetadataMembers_iff members hRoom).mpr ⟨⟨?_, hLe⟩, hMembers⟩⟩
      omega

end

/-- The validation accepts exactly the admissible values. -/
theorem metadata_admissible_iff (lib : AuditLibrary) (value : MetadataValue) :
    (∃ itemCounter, validateMetadataValue lib value 0 0 = .ok itemCounter) ↔
      Admissible lib value := by
  rw [admissible_iff]
  constructor
  · rintro ⟨itemCounter, h⟩
    obtain ⟨⟨rfl, hLe⟩, hNodes⟩ := (validateMetadataValue_iff value (Nat.zero_le _)).mp h
    rw [Nat.zero_add] at hLe
    exact ⟨hLe, hNodes⟩
  · rintro ⟨hItems, hNodes⟩
    exact ⟨value.sizes.sum, (validateMetadataValue_iff value (Nat.zero_le _)).mpr
      ⟨⟨(Nat.zero_add _).symm, hItems⟩, hNodes⟩⟩

/-- **The validation is exact.** From depth zero with a count of zero the validator accepts a value
exactly if it is admissible; the count is then the sum of the sizes of its lists and dicts. -/
theorem metadata_validation_exact (lib : AuditLibrary) (value : MetadataValue) :
    ((∃ itemCounter, validateMetadataValue lib value 0 0 = .ok itemCounter) ↔
        Admissible lib value) ∧
      ∀ itemCounter, validateMetadataValue lib value 0 0 = .ok itemCounter →
        itemCounter = value.sizes.sum := by
  refine ⟨metadata_admissible_iff lib value, fun itemCounter h => ?_⟩
  obtain ⟨⟨hCount, -⟩, -⟩ := (validateMetadataValue_iff value (Nat.zero_le _)).mp h
  rw [hCount, Nat.zero_add]

-- ---------------------------------------------------------------------------
-- What is recorded
-- ---------------------------------------------------------------------------

/-- The metadata that may be recorded: a dict that is admissible and whose JSON is not too large. -/
structure Recordable (lib : AuditLibrary) (value : MetadataValue) : Prop where
  dict : ∃ members, value = .dict members
  admissible : Admissible lib value
  size : ∃ serialized, serializeMetadata lib value = some serialized ∧
    serialized.length ≤ adminAuditMetadataMaxBytes

/-- **The metadata of an event.** No metadata is an empty dict; other metadata is recorded as it is,
or not at all. -/
theorem validateAdminAuditMetadata_iff {metadata : Option MetadataValue} {safe : MetadataValue} :
    validateAdminAuditMetadata lib metadata = .ok safe ↔
      metadata = none ∧ safe = .dict [] ∨ metadata = some safe ∧ Recordable lib safe := by
  cases metadata with
  | none =>
    constructor
    · intro h
      exact Or.inl ⟨rfl, (Except.ok.inj h).symm⟩
    · rintro (⟨-, rfl⟩ | ⟨h, -⟩)
      · rfl
      · cases h
  | some value =>
    -- what is no dict is rejected, and is not recordable
    have hRejected : ∀ {e : AdminAuditMetadataError}, (∀ members, value ≠ .dict members) →
        ((Except.error e : Except AdminAuditMetadataError MetadataValue) = .ok safe ↔
          some value = none ∧ safe = .dict [] ∨ some value = some safe ∧ Recordable lib safe) := by
      intro e hNo
      constructor
      · intro h
        cases h
      · rintro (⟨h, -⟩ | ⟨h, hRecordable⟩)
        · cases h
        · obtain ⟨members, rfl⟩ := hRecordable.dict
          exact absurd (Option.some.inj h) (hNo members)
    cases value with
    | dict members =>
      simp only [validateAdminAuditMetadata, bind_eq_ok, required_eq_ok, ensure_eq_ok]
      constructor
      · rintro ⟨itemCounter, hValid, serialized, hSerialized, -, hSize, h⟩
        obtain rfl := Except.ok.inj h
        have hAdmissible := (metadata_admissible_iff lib _).mp ⟨itemCounter, hValid⟩
        exact Or.inr ⟨rfl, ⟨members, rfl⟩, hAdmissible, serialized, hSerialized, hSize⟩
      · rintro (⟨h, -⟩ | ⟨h, hRecordable⟩)
        · cases h
        · obtain rfl := Option.some.inj h
          obtain ⟨itemCounter, hValid⟩ :=
            (metadata_admissible_iff lib _).mpr hRecordable.admissible
          obtain ⟨serialized, hSerialized, hSize⟩ := hRecordable.size
          exact ⟨itemCounter, hValid, serialized, hSerialized, (), hSize, rfl⟩
    | none => exact hRejected fun members h => by cases h
    | bool b => exact hRejected fun members h => by cases h
    | int n => exact hRejected fun members h => by cases h
    | float x => exact hRejected fun members h => by cases h
    | str s => exact hRejected fun members h => by cases h
    | list items => exact hRejected fun members h => by cases h
    | other => exact hRejected fun members h => by cases h

end SpikeBackend
