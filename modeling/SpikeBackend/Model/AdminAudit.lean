import SpikeBackend.Lib.JsonText
import SpikeBackend.Lib.Outcome

/-!
# Metadata of audit events

`validate_admin_audit_metadata` (`app/services/admin_audit.py`): what may be recorded with a
privileged action. The values are those that Python passes around as JSON, floats that are not
finite and keys that are no strings among them, and any other object.
-/

namespace SpikeBackend

open Text Outcome

def adminAuditMetadataMaxBytes : Nat := 16 * 1024

def adminAuditMetadataMaxDepth : Nat := 5

def adminAuditMetadataMaxItems : Nat := 128

def adminAuditMetadataMaxKeyLength : Nat := 64

def adminAuditMetadataMaxStringLength : Nat := 512

def sensitiveMetadataKeyParts : List Str :=
  [str "password", str "otp", str "secret", str "token", str "authorization", str "cookie",
    str "prompt", str "content"]

def sensitiveMetadataKeys : List Str :=
  [str "api_key", str "apikey", str "raw_payload", str "raw_request", str "raw_response",
    str "file_contents", str "message_body"]

/-- A key of a `dict`. -/
inductive MetadataKey
  | str (value : Str)
  | other

/-- A Python value; a float without a value is `inf` or `nan`. -/
inductive MetadataValue
  | none
  | bool (value : Bool)
  | int (value : Int)
  | float (value : Option Rat)
  | str (value : Str)
  | list (items : List MetadataValue)
  | dict (members : List (MetadataKey × MetadataValue))
  | other

/-- `AdminAuditMetadataError`. -/
structure AdminAuditMetadataError where
  message : Str
  deriving DecidableEq

/-- `str.lower`, of the standard library, and `float.__repr__`. -/
structure AuditLibrary where
  lower : Str → Str
  floatRepr : Rat → Str

variable (lib : AuditLibrary)

/-- `_metadata_key_is_sensitive`. -/
def metadataKeyIsSensitive (key : Str) : Bool :=
  let normalized := replaceChar 0x2D (str "_") (lib.lower (strip key))
  sensitiveMetadataKeys.contains normalized ||
    ((normalized.splitOn 0x5F).filter fun part => !part.isEmpty).any fun part =>
      sensitiveMetadataKeyParts.contains part

/-- The checks of a key. -/
def validateMetadataKey : MetadataKey → Except AdminAuditMetadataError Unit
  | .other => throw ⟨str "Audit metadata keys must be strings."⟩
  | .str key => do
    ensure (1 ≤ key.length ∧ key.length ≤ adminAuditMetadataMaxKeyLength)
      ⟨str "Audit metadata contains an invalid key."⟩
    ensure (metadataKeyIsSensitive lib key = false)
      ⟨str "Sensitive fields are forbidden in audit metadata."⟩

mutual

/-- `_validate_metadata_value`; the answer is the item counter afterwards. -/
def validateMetadataValue (value : MetadataValue) (depth itemCounter : Nat) :
    Except AdminAuditMetadataError Nat := do
  ensure (depth ≤ adminAuditMetadataMaxDepth) ⟨str "Audit metadata is too deeply nested."⟩
  match value with
  | .none | .bool _ | .int _ => pure itemCounter
  | .float x => do
    ensure (x.isSome = true) ⟨str "Audit metadata numbers must be finite."⟩
    pure itemCounter
  | .str s => do
    ensure (s.length ≤ adminAuditMetadataMaxStringLength) ⟨str "Audit metadata string is too long."⟩
    pure itemCounter
  | .list items => do
    ensure (itemCounter + items.length ≤ adminAuditMetadataMaxItems)
      ⟨str "Audit metadata contains too many items."⟩
    validateMetadataItems items (depth + 1) (itemCounter + items.length)
  | .dict members => do
    ensure (itemCounter + members.length ≤ adminAuditMetadataMaxItems)
      ⟨str "Audit metadata contains too many items."⟩
    validateMetadataMembers members (depth + 1) (itemCounter + members.length)
  | .other => throw ⟨str "Audit metadata must contain JSON-compatible values only."⟩

/-- The loop over a list. -/
def validateMetadataItems : List MetadataValue → (depth itemCounter : Nat) →
    Except AdminAuditMetadataError Nat
  | [], _, itemCounter => pure itemCounter
  | item :: items, depth, itemCounter => do
    let itemCounter ← validateMetadataValue item depth itemCounter
    validateMetadataItems items depth itemCounter

/-- The loop over the members of a dict. -/
def validateMetadataMembers : List (MetadataKey × MetadataValue) → (depth itemCounter : Nat) →
    Except AdminAuditMetadataError Nat
  | [], _, itemCounter => pure itemCounter
  | (key, item) :: members, depth, itemCounter => do
    validateMetadataKey lib key
    let itemCounter ← validateMetadataValue item depth itemCounter
    validateMetadataMembers members depth itemCounter

end

mutual

/-- What `json.dumps` makes of a value; `none` is a `TypeError` or a `ValueError`. -/
def MetadataValue.json? : MetadataValue → Option Json
  | .none => some .null
  | .bool b => some (.bool b)
  | .int n => some (.int n)
  | .float x => x.map Json.float
  | .str s => some (.str s)
  | .list items => (itemsJson? items).map Json.arr
  | .dict members => (membersJson? members).map Json.obj
  | .other => Option.none

def MetadataValue.itemsJson? : List MetadataValue → Option (List Json)
  | [] => some []
  | item :: items => do
    let x ← item.json?
    let xs ← itemsJson? items
    pure (x :: xs)

def MetadataValue.membersJson? : List (MetadataKey × MetadataValue) → Option Dict
  | [] => some []
  | (.str key, item) :: members => do
    let x ← item.json?
    let xs ← membersJson? members
    pure ((key, x) :: xs)
  | (.other, _) :: _ => Option.none

end

/-- `json.dumps(value, …, sort_keys=True).encode("utf-8")`; `none` is an error that is caught. -/
def serializeMetadata (value : MetadataValue) : Option (List UInt8) := do
  let json ← value.json?
  if json.writable = true then encode? (jsonText lib.floatRepr json.sortKeys) else Option.none

/-- `validate_admin_audit_metadata`. -/
def validateAdminAuditMetadata : Option MetadataValue → Except AdminAuditMetadataError MetadataValue
  | Option.none => pure (.dict [])
  | some (.dict members) => do
    let _ ← validateMetadataValue lib (.dict members) 0 0
    let serialized ← required (serializeMetadata lib (.dict members))
      ⟨str "Audit metadata must be valid JSON."⟩
    ensure (serialized.length ≤ adminAuditMetadataMaxBytes) ⟨str "Audit metadata is too large."⟩
    pure (.dict members)
  | some _ => throw ⟨str "Audit metadata must be a JSON object."⟩

end SpikeBackend
