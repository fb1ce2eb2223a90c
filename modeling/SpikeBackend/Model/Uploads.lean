import SpikeBackend.Lib.Outcome
import SpikeBackend.Lib.RecordStream
import SpikeBackend.Lib.Utf8

/-!
# Contents of uploads

`_validate_csv_content` (`app/services/uploads.py`): what an uploaded file has to look like
before it is processed as CSV. `_validate_xls_workbook_stream`: the workbook stream of an uploaded
XLS file, record by record.
-/

namespace SpikeBackend

open Text Outcome RecordStream

/-- A Python bytes literal. -/
def bytes (s : String) : List UInt8 := s.toList.map fun c => c.toNat.toUInt8

/-- `SuspiciousReportContentError`. -/
structure SuspiciousReportContentError where
  code : Str
  deriving DecidableEq

def knownBinaryPrefixes : List (List UInt8) :=
  [bytes "\x7fELF", bytes "%PDF", bytes "MZ", bytes "PK\x03\x04", bytes "Rar!\x1a\x07",
    bytes "\x89PNG\r\n\x1a\n", bytes "GIF87a", bytes "GIF89a",
    bytes "\xd0\xcf\x11\xe0\xa1\xb1\x1a\xe1"]

/-- `content.startswith(KNOWN_BINARY_PREFIXES)`. -/
def startsWithKnownBinary (content : List UInt8) : Bool :=
  knownBinaryPrefixes.any fun p => p.isPrefixOf content

/-- The byte order mark of UTF-8. -/
def bomUtf8 : List UInt8 := [0xEF, 0xBB, 0xBF]

/-- `content.decode("utf-8-sig")`. -/
def decodeSig? (content : List UInt8) : Option Str :=
  decode? (if content.take 3 = bomUtf8 then content.drop 3 else content)

/-- The number of a control character that no CSV file has. -/
def isInvalidControl (n : Nat) : Bool := n < 32 && n != 0x09 && n != 0x0D && n != 0x0A

/-- The bytes that are looked at. -/
def csvSample (content : List UInt8) : List UInt8 := content.take (64 * 1024)

/-- `_validate_csv_content`. -/
def validateCsvContent (content : List UInt8) : Except SuspiciousReportContentError Unit := do
  ensure (content ≠ [] ∧ startsWithKnownBinary content = false) ⟨str "content_signature_mismatch"⟩
  ensure (0 ∉ csvSample content) ⟨str "content_signature_mismatch"⟩
  let decoded ← required (decodeSig? (csvSample content)) ⟨str "csv_not_utf8"⟩
  ensure (decoded.countP (fun c => isInvalidControl c.val) = 0) ⟨str "csv_contains_control_bytes"⟩

-- ---------------------------------------------------------------------------
-- Workbook streams
-- ---------------------------------------------------------------------------

def xlsBofRecordIds : List Nat := [0x0009, 0x0209, 0x0409, 0x0809]

def xlsEncryptionRecordId : Nat := 0x002F

def xlsVbaProjectRecordId : Nat := 0x00D3

def xlsMacroSheetType : Nat := 0x0040

/-- What the validation of a stream raises; `struct.error` is a read beyond the end. -/
inductive XlsStreamError
  | suspicious (error : SuspiciousReportContentError)
  | struct
  deriving DecidableEq

/-- `raise SuspiciousReportContentError(code)`. -/
def xlsRejected (code : String) : XlsStreamError := .suspicious ⟨str code⟩

/-- `unpack_from("<H", buffer, offset)[0]`. -/
def unpackWord (buffer : List UInt8) (offset : Nat) : Except XlsStreamError Nat :=
  required (wordAt? buffer offset) .struct

/-- `unpack_from("<HH", buffer, offset)`. -/
def unpackWords (buffer : List UInt8) (offset : Nat) : Except XlsStreamError (Nat × Nat) := do
  let first ← unpackWord buffer offset
  let second ← unpackWord buffer (offset + 2)
  pure (first, second)

/-- The checks before the loop. -/
def checkXlsStart (workbook : List UInt8) : Except XlsStreamError Unit := do
  ensure (8 ≤ workbook.length) (xlsRejected "xls_structure_rejected")
  let (firstRecordId, firstRecordSize) ← unpackWords workbook 0
  ensure (firstRecordId ∈ xlsBofRecordIds ∧ 4 ≤ firstRecordSize)
    (xlsRejected "xls_structure_rejected")
  ensure (4 + firstRecordSize ≤ workbook.length) (xlsRejected "xls_structure_rejected")
  let streamType ← unpackWord workbook 6
  ensure (streamType = 0x0005) (xlsRejected "xls_structure_rejected")

/-- The last condition of the loop; the word is read only in a record of the right kind. -/
def isMacroSheet (workbook : List UInt8) (offset recordId recordSize : Nat) :
    Except XlsStreamError Bool :=
  if recordId ∈ xlsBofRecordIds ∧ 4 ≤ recordSize then do
    let sheetType ← unpackWord workbook (offset + 6)
    pure (sheetType == xlsMacroSheetType)
  else pure false

/-- The body of the loop: the offset of the next record. -/
def checkXlsRecord (workbook : List UInt8) (offset : Nat) : Except XlsStreamError Nat := do
  let (recordId, recordSize) ← unpackWords workbook offset
  let recordEnd := offset + 4 + recordSize
  ensure (recordEnd ≤ workbook.length) (xlsRejected "xls_structure_rejected")
  ensure (recordId ≠ xlsEncryptionRecordId) (xlsRejected "xls_encrypted_rejected")
  ensure (recordId ≠ xlsVbaProjectRecordId) (xlsRejected "xls_active_content_rejected")
  let macroSheet ← isMacroSheet workbook offset recordId recordSize
  ensure (macroSheet = false) (xlsRejected "xls_active_content_rejected")
  pure recordEnd

/-- The loop, for at most `fuel` evaluations of its condition; `none` if it has not ended. -/
def checkXlsRecords (workbook : List UInt8) :
    (fuel offset : Nat) → Option (Except XlsStreamError Unit)
  | 0, _ => none
  | fuel + 1, offset =>
    if offset + 4 ≤ workbook.length then
      match checkXlsRecord workbook offset with
      | .error e => some (.error e)
      | .ok recordEnd => checkXlsRecords workbook fuel recordEnd
    else some (.ok ())

/-- `_validate_xls_workbook_stream`. -/
def validateXlsWorkbookStream (fuel : Nat) (workbook : List UInt8) :
    Option (Except XlsStreamError Unit) :=
  match checkXlsStart workbook with
  | .error e => some (.error e)
  | .ok () => checkXlsRecords workbook fuel 0

end SpikeBackend
