import DefinedQuant.Lib.Calendar
import DefinedQuant.Protocol.Operation
import DefinedQuant.Protocol.Ports
import DefinedQuant.Shared.DataRecords.Documents
import Mathlib.Data.Prod.Lex

/-!
# Dataset payloads and dataset records

A dataset is a normalized table, its payload, and a record that describes where the table came from
and how it was normalized. The record names the payload by digest, and `validatePayload` checks
everything else the two say about one another. Both are stored in the form their
`canonical_projection` has, which is what `codec.encode` is here.
-/

namespace DataRecords

open Json Canonical Protocol
open Calendar (daysInMonth)

/-- `DATASET_PAYLOAD_HASH_DOMAIN` -/
def datasetPayloadHashDomain : Text := py "mcp.dataset.payload.v1"

/-- `DATASET_RECORD_HASH_DOMAIN` -/
def datasetRecordHashDomain : Text := py "mcp.dataset.v1"

/-- A literal version field: the `int` one, nothing that equals it. -/
def integerOne : Codec Unit := .literalInt 1 "record version must be the integer 1"

/-! ## Timestamps -/

/-- The text has the shape of the template, in which `d` stands for an ASCII digit. -/
def fitsTemplate : Text → Text → Bool
  | [], [] => true
  | t :: template, c :: value =>
      (if t.val = 0x64 then c.isDigit else t == c) && fitsTemplate template value
  | _, _ => false

/-- The number written in `count` digits from a position on. -/
def digitsAt (value : Text) (start count : ℕ) : ℕ :=
  ((value.drop start).take count).foldl (fun n c => 10 * n + (c.val - 48)) 0

/-- What may follow the seconds: one to six digits, the last one not zero. -/
def isFraction (value : Text) : Bool :=
  value.isEmpty ||
    match value with
    | [] => false
    | point :: digits => point.val == 0x2E && 1 ≤ digits.length && digits.length ≤ 6 &&
        digits.all CodePoint.isDigit && digits.getLast? != some 0x30

/-- `_CANONICAL_TIMESTAMP_PATTERN` together with the calendar check of `datetime.fromisoformat`,
which refuses the digits that the pattern accepts beyond ASCII. -/
def isCanonicalTimestamp (value : Text) : Bool :=
  let year := digitsAt value 0 4
  let month := digitsAt value 5 2
  let day := digitsAt value 8 2
  value.getLast? == some 0x5A &&
    fitsTemplate (py "dddd-dd-ddTdd:dd:dd") (value.take 19) &&
    isFraction (value.drop 19).dropLast &&
    (1 ≤ year && 1 ≤ month && month ≤ 12 && 1 ≤ day && day ≤ daysInMonth year month) &&
    (digitsAt value 11 2 ≤ 23 && digitsAt value 14 2 ≤ 59 && digitsAt value 17 2 ≤ 59)

example : isCanonicalTimestamp (py "2024-02-29T23:59:59.25Z") = true := by decide
example : isCanonicalTimestamp (py "2023-02-29T00:00:00Z") = false := by decide

/-- `_validate_canonical_timestamp` -/
def validateCanonicalTimestamp (value : Text) : Except ValueError Unit :=
  if isCanonicalTimestamp value then .ok ()
  else .error ⟨"timestamp is not in canonical UTC form"⟩

/-! ## Payloads -/

/-- The type of a column. -/
inductive DataType where
  | number
  | integer
  | string
  | boolean
  | timestamp
  deriving DecidableEq

def DataType.value : DataType → String
  | .number => "number"
  | .integer => "integer"
  | .string => "string"
  | .boolean => "boolean"
  | .timestamp => "timestamp"

def DataType.codec : Codec DataType :=
  .enum [.number, .integer, .string, .boolean, .timestamp] value
    (by intro a; cases a <;> simp [value])

/-- `_validate_cell` -/
def validateCell (value : Value) (dataType : DataType) : Except ValueError Unit := do
  if value.isNull then return
  match value with
  | .seq _ _ | .obj _ => throw ⟨"dataset payload cells must be scalar"⟩
  | .str s =>
      if utf8Within 0 maxCellBytes s = false then
        throw ⟨"dataset cell must contain 0..65536 UTF-8 bytes"⟩
  | _ => pure ()
  match dataType, value with
  | .boolean, .bool _ => return
  | .boolean, _ => throw ⟨"boolean column contains a non-boolean cell"⟩
  | .integer, .int n =>
      if maxSafeInteger < n.natAbs then
        throw ⟨"integer cell exceeds the canonical safe range"⟩
  | .integer, _ => throw ⟨"integer column contains a non-integer cell"⟩
  | .number, .int n =>
      if maxSafeInteger < n.natAbs then
        throw ⟨"number cell exceeds the canonical safe range"⟩
  | .number, .float x =>
      if x.isFinite = false then throw ⟨"number cell must be finite"⟩
      if x.isInteger && x.absExceeds maxSafeInteger then
        throw ⟨"integer-valued number cell exceeds the canonical safe range"⟩
  | .number, _ => throw ⟨"number column contains a non-number cell"⟩
  | .string, .str _ => return
  | .string, _ => throw ⟨"string column contains a non-string cell"⟩
  | .timestamp, .str s => validateCanonicalTimestamp s
  | .timestamp, _ => throw ⟨"timestamp column contains a non-string cell"⟩

/-- `DatasetPayloadColumnV1` -/
structure DatasetPayloadColumn where
  fieldId : SafeId
  dataType : DataType
  deriving DecidableEq

def DatasetPayloadColumn.fields : Fields DatasetPayloadColumn :=
  (Fields.and (.required "field_id" SafeId.codec) (.required "data_type" DataType.codec)
    (by decide)).iso (fun (a, b) => ⟨a, b⟩) (fun c => (c.fieldId, c.dataType)) (fun _ => rfl)

def DatasetPayloadColumn.codec : Codec DatasetPayloadColumn := .object fields

/-- The fields of `DatasetPayloadV1`. -/
structure DatasetPayloadFields where
  columns : Bounded DatasetPayloadColumn 1 maxDatasetColumns
  rows : Bounded (List SortedJson) 1 maxDatasetRows

def DatasetPayloadFields.fields : Fields DatasetPayloadFields :=
  (Fields.and (.required "schema_version" integerOne)
    (.and (.required "serialization" (.literal "dq-table-v1"))
    (.and (.required "columns" (Bounded.codec DatasetPayloadColumn.codec 1 maxDatasetColumns))
      (.required "rows" (Bounded.codec SortedJson.codec.array 1 maxDatasetRows))
    (by decide)) (by decide)) (by decide)).iso
    (fun (_, _, a, b) => ⟨a, b⟩) (fun p => ((), (), p.columns, p.rows)) (fun _ => rfl)

/-- `canonical_projection` -/
def DatasetPayloadFields.projection (self : DatasetPayloadFields) : Value :=
  (Codec.object DatasetPayloadFields.fields).encode self

/-- `_validate_table` -/
def DatasetPayloadFields.validateTable (self : DatasetPayloadFields) : Except ValueError Unit := do
  if ¬ (self.columns.1.map (fun c => c.fieldId)).Nodup then
    throw ⟨"payload field IDs must be unique"⟩
  self.rows.1.forM (fun row => do
    if row.length ≠ self.columns.1.length then
      throw ⟨"every payload row must have the declared width"⟩
    (row.zip self.columns.1).forM (fun (cell, column) => validateCell cell.value column.dataType))
  let _ ← canonicalJsonBytes self.projection

/-- `DatasetPayloadV1` -/
abbrev DatasetPayload := {p : DatasetPayloadFields // p.validateTable = .ok ()}

def DatasetPayload.codec : Codec DatasetPayload :=
  (Codec.object DatasetPayloadFields.fields).validated DatasetPayloadFields.validateTable

/-- `DatasetPayloadV1.digest` -/
def DatasetPayload.digest (payload : DatasetPayload) : Except ValueError Text :=
  canonicalHash (DatasetPayload.codec.encode payload) datasetPayloadHashDomain

/-! ## Record parts -/

/-- `DatasetPayloadBindingV1`; its serialization is the one literal. -/
structure DatasetPayloadBinding where
  sha256 : Sha256Text
  deriving DecidableEq

def DatasetPayloadBinding.fields : Fields DatasetPayloadBinding :=
  (Fields.and (.required "serialization" (.literal "dq-table-v1"))
    (.required "sha256" Sha256Text.codec) (by decide)).iso
    (fun (_, a) => ⟨a⟩) (fun b => ((), b.sha256)) (fun _ => rfl)

def DatasetPayloadBinding.codec : Codec DatasetPayloadBinding := .object fields

/-- Provenance text. -/
abbrev ProvenanceText := Utf8Text 1 500

def ProvenanceText.codec : Codec ProvenanceText := Utf8Text.codec "provenance text" 1 500

/-- `DatasetRecordProvenance` -/
structure DatasetRecordProvenance where
  sourceKind : SourceKind
  interpretationMethod : InterpretationMethod
  verificationStatus : ProvenanceStatus
  label : Utf8Text 1 240
  references : Bounded ProvenanceText 0 50
  contentSha256 : Option Sha256Text
  assumptions : Bounded ProvenanceText 0 50
  deriving DecidableEq

def DatasetRecordProvenance.fields : Fields DatasetRecordProvenance :=
  (Fields.and (.required "source_kind" SourceKind.codec)
    (.and (.required "interpretation_method" InterpretationMethod.codec)
    (.and (.required "verification_status" ProvenanceStatus.codec)
    (.and (.required "label" (Utf8Text.codec "provenance label" 1 240))
    (.and (.required "references" (Bounded.codec ProvenanceText.codec 0 50))
    (.and (.optional "content_sha256" Sha256Text.codec)
      (.required "assumptions" (Bounded.codec ProvenanceText.codec 0 50))
    (by decide)) (by decide)) (by decide)) (by decide)) (by decide)) (by decide)).iso
    (fun (a, b, c, d, e, f, g) => ⟨a, b, c, d, e, f, g⟩)
    (fun p => (p.sourceKind, p.interpretationMethod, p.verificationStatus, p.label, p.references,
      p.contentSha256, p.assumptions))
    (fun _ => rfl)

/-- The dump is `canonical_projection`, which leaves out an absent digest. -/
def DatasetRecordProvenance.codec : Codec DatasetRecordProvenance := .object fields

/-- `model_dump(mode="json")`, which writes an absent digest as `null`. -/
def DatasetRecordProvenance.modelDump (self : DatasetRecordProvenance) : Value :=
  .obj [(py "source_kind", SourceKind.codec.encode self.sourceKind),
    (py "interpretation_method", InterpretationMethod.codec.encode self.interpretationMethod),
    (py "verification_status", ProvenanceStatus.codec.encode self.verificationStatus),
    (py "label", .str self.label.1),
    (py "references", (Bounded.codec ProvenanceText.codec 0 50).encode self.references),
    (py "content_sha256", optionalSha256.encode self.contentSha256),
    (py "assumptions", (Bounded.codec ProvenanceText.codec 0 50).encode self.assumptions)]

/-- The delimiter of a CSV source. -/
inductive CsvDelimiter where
  | comma
  | semicolon
  | tab
  deriving DecidableEq

def CsvDelimiter.value : CsvDelimiter → String
  | .comma => ","
  | .semicolon => ";"
  | .tab => "\t"

def CsvDelimiter.codec : Codec CsvDelimiter :=
  .enum [.comma, .semicolon, .tab] value (by intro a; cases a <;> simp [value])

/-- `CsvRecordSourceOptions`; its header is the one literal. -/
structure CsvRecordSourceOptions where
  delimiter : CsvDelimiter
  deriving DecidableEq

def CsvRecordSourceOptions.fields : Fields CsvRecordSourceOptions :=
  (Fields.and (.required "delimiter" CsvDelimiter.codec)
    (.required "header" (.literalTrue "CSV header must be the boolean true")) (by decide)).iso
    (fun (a, _) => ⟨a⟩) (fun o => (o.delimiter, ())) (fun _ => rfl)

def CsvRecordSourceOptions.codec : Codec CsvRecordSourceOptions := .object fields

/-- The two forms of a source given inline: `InlineRowsRecordSourceV1`, `InlineJsonRecordSourceV1`. -/
inductive InlineKind where
  | inlineRows
  | inlineJson
  deriving DecidableEq

def InlineKind.value : InlineKind → String
  | .inlineRows => "inline_rows"
  | .inlineJson => "inline_json"

def InlineKind.codec : Codec InlineKind :=
  .enum [.inlineRows, .inlineJson] value (by intro a; cases a <;> simp [value])

/-- `DatasetRecordSourceV1` -/
inductive DatasetRecordSource where
  | inline (kind : InlineKind) (provenance : DatasetRecordProvenance)
  | localCsv (csv : CsvRecordSourceOptions) (provenance : DatasetRecordProvenance)
  | localJson (provenance : DatasetRecordProvenance)
  deriving DecidableEq

namespace DatasetRecordSource

def inlineFields : Fields (InlineKind × DatasetRecordProvenance) :=
  .and (.required "kind" InlineKind.codec) (.required "provenance" DatasetRecordProvenance.codec)
    (by decide)

def localCsvFields : Fields (CsvRecordSourceOptions × DatasetRecordProvenance) :=
  (Fields.and (.required "kind" (.literal "local_file"))
    (.and (.required "format" (.literal "csv"))
    (.and (.required "csv" CsvRecordSourceOptions.codec)
      (.required "provenance" DatasetRecordProvenance.codec)
    (by decide)) (by decide)) (by decide)).iso
    (fun (_, _, a, b) => (a, b)) (fun (a, b) => ((), (), a, b)) (fun _ => rfl)

def localJsonFields : Fields DatasetRecordProvenance :=
  (Fields.and (.required "kind" (.literal "local_file"))
    (.and (.required "format" (.literal "json"))
      (.required "provenance" DatasetRecordProvenance.codec)
    (by decide)) (by decide)).iso
    (fun (_, _, a) => a) (fun a => ((), (), a)) (fun _ => rfl)

/-- `source.provenance` -/
def provenance : DatasetRecordSource → DatasetRecordProvenance
  | .inline _ p => p
  | .localCsv _ p => p
  | .localJson p => p

/-- The form that the source has, and its fields. -/
abbrev Parts := (InlineKind × DatasetRecordProvenance) ⊕
  ((CsvRecordSourceOptions × DatasetRecordProvenance) ⊕ DatasetRecordProvenance)

/-- No CSV source reads as a JSON file. -/
theorem localCsv_refuses (p : DatasetRecordProvenance) :
    ∃ e, (Codec.object localCsvFields).decode ((Codec.object localJsonFields).encode p) =
      .error e :=
  Codec.object_error rfl

/-- No local file reads as an inline source. -/
theorem inline_refuses (p : (CsvRecordSourceOptions × DatasetRecordProvenance) ⊕
      DatasetRecordProvenance) :
    ∃ e, (Codec.object inlineFields).decode
      ((Codec.union (.object localCsvFields) (.object localJsonFields) localCsv_refuses).encode p)
        = .error e := by
  cases p with
  | inl p => exact Codec.object_error rfl
  | inr p => exact Codec.object_error rfl

/-- The dump is `_record_source_projection`. -/
def codec : Codec DatasetRecordSource :=
  (Codec.union (.object inlineFields)
    (.union (.object localCsvFields) (.object localJsonFields) localCsv_refuses)
    inline_refuses).iso
    (fun parts : Parts =>
      match parts with
      | .inl (kind, p) => .inline kind p
      | .inr (.inl (csv, p)) => .localCsv csv p
      | .inr (.inr p) => .localJson p)
    (fun source =>
      match source with
      | .inline kind p => .inl (kind, p)
      | .localCsv csv p => .inr (.inl (csv, p))
      | .localJson p => .inr (.inr p))
    (fun source => by cases source <;> rfl)

end DatasetRecordSource

/-- The two statuses that carry no receipt: `NoExternalPreprocessing`,
`UnknownExternalPreprocessing`. -/
inductive PreprocessingStatus where
  | noneDeclared
  | unknown
  deriving DecidableEq

def PreprocessingStatus.value : PreprocessingStatus → String
  | .noneDeclared => "none_declared"
  | .unknown => "unknown"

def PreprocessingStatus.codec : Codec PreprocessingStatus :=
  .enum [.noneDeclared, .unknown] value (by intro a; cases a <;> simp [value])

/-- `ExternalReceipt` -/
structure ExternalReceipt where
  schemaId : SafeId
  sha256 : Sha256Text
  deriving DecidableEq

def ExternalReceipt.fields : Fields ExternalReceipt :=
  (Fields.and (.required "schema_id" SafeId.codec) (.required "sha256" Sha256Text.codec)
    (by decide)).iso (fun (a, b) => ⟨a, b⟩) (fun r => (r.schemaId, r.sha256)) (fun _ => rfl)

def ExternalReceipt.codec : Codec ExternalReceipt := .object fields

/-- `ExternalPreprocessing` -/
inductive ExternalPreprocessing where
  | without (status : PreprocessingStatus)
  | receiptSupplied (receipt : ExternalReceipt)
  deriving DecidableEq

namespace ExternalPreprocessing

def withoutFields : Fields PreprocessingStatus := .required "status" PreprocessingStatus.codec

def receiptFields : Fields ExternalReceipt :=
  (Fields.and (.required "status" (.literal "receipt_supplied"))
    (.required "receipt" ExternalReceipt.codec) (by decide)).iso
    (fun (_, a) => a) (fun a => ((), a)) (fun _ => rfl)

/-- No receipt reads as a status without one. -/
theorem without_refuses (r : ExternalReceipt) :
    ∃ e, (Codec.object withoutFields).decode ((Codec.object receiptFields).encode r) = .error e :=
  Codec.object_error rfl

def codec : Codec ExternalPreprocessing :=
  (Codec.union (.object withoutFields) (.object receiptFields) without_refuses).iso
    (fun parts : PreprocessingStatus ⊕ ExternalReceipt =>
      match parts with
      | .inl status => .without status
      | .inr receipt => .receiptSupplied receipt)
    (fun p =>
      match p with
      | .without status => .inl status
      | .receiptSupplied receipt => .inr receipt)
    (fun p => by cases p <;> rfl)

/-- `external_preprocessing.status` -/
def status : ExternalPreprocessing → String
  | .without status => status.value
  | .receiptSupplied _ => "receipt_supplied"

end ExternalPreprocessing

/-- `DatasetInstrument` -/
structure DatasetInstrument where
  nameSpace : Utf8Text 1 64
  symbol : Utf8Text 1 128
  deriving DecidableEq

def DatasetInstrument.fields : Fields DatasetInstrument :=
  (Fields.and (.required "namespace" (Utf8Text.codec "instrument namespace" 1 64))
    (.required "symbol" (Utf8Text.codec "instrument symbol" 1 128)) (by decide)).iso
    (fun (a, b) => ⟨a, b⟩) (fun i => (i.nameSpace, i.symbol)) (fun _ => rfl)

def DatasetInstrument.codec : Codec DatasetInstrument := .object fields

/-- The frequency of a dataset. -/
inductive DatasetFrequency where
  | daily
  | weekly
  | monthly
  | quarterly
  | annual
  | irregular
  deriving DecidableEq

def DatasetFrequency.value : DatasetFrequency → String
  | .daily => "daily"
  | .weekly => "weekly"
  | .monthly => "monthly"
  | .quarterly => "quarterly"
  | .annual => "annual"
  | .irregular => "irregular"

def DatasetFrequency.codec : Codec DatasetFrequency :=
  .enum [.daily, .weekly, .monthly, .quarterly, .annual, .irregular] value
    (by intro a; cases a <;> simp [value])

/-- Whether prices are adjusted. -/
inductive PriceKind where
  | adjusted
  | unadjusted
  deriving DecidableEq

def PriceKind.value : PriceKind → String
  | .adjusted => "adjusted"
  | .unadjusted => "unadjusted"

def PriceKind.codec : Codec PriceKind :=
  .enum [.adjusted, .unadjusted] value (by intro a; cases a <;> simp [value])

/-- `DatasetSemantics`; its ordering is the one literal. -/
structure DatasetSemantics where
  instrument : Option DatasetInstrument
  currency : Option (Utf8Text 1 32)
  frequency : Option DatasetFrequency
  timezone : Option (Utf8Text 1 128)
  priceKind : Option PriceKind
  adjustmentPolicy : Option (Utf8Text 1 240)
  distributionPolicy : Option (Utf8Text 1 240)
  calendar : Option (Utf8Text 1 240)
  partialPeriodPolicy : Option (Utf8Text 1 240)
  deriving DecidableEq

def semanticPolicy : Codec (Utf8Text 1 240) := Utf8Text.codec "semantic policy" 1 240

def DatasetSemantics.fields : Fields DatasetSemantics :=
  (Fields.and (.optional "instrument" DatasetInstrument.codec)
    (.and (.optional "currency" (Utf8Text.codec "currency" 1 32))
    (.and (.optional "frequency" DatasetFrequency.codec)
    (.and (.optional "timezone" (Utf8Text.codec "timezone" 1 128))
    (.and (.required "ordering" (.literal "preserve_source_order"))
    (.and (.optional "price_kind" PriceKind.codec)
    (.and (.optional "adjustment_policy" semanticPolicy)
    (.and (.optional "distribution_policy" semanticPolicy)
    (.and (.optional "calendar" semanticPolicy) (.optional "partial_period_policy" semanticPolicy)
    (by decide)) (by decide)) (by decide)) (by decide)) (by decide)) (by decide)) (by decide))
    (by decide)) (by decide)).iso
    (fun (a, b, c, d, _, e, f, g, h, i) => ⟨a, b, c, d, e, f, g, h, i⟩)
    (fun s => (s.instrument, s.currency, s.frequency, s.timezone, (), s.priceKind,
      s.adjustmentPolicy, s.distributionPolicy, s.calendar, s.partialPeriodPolicy))
    (fun _ => rfl)

/-- The dump is `canonical_projection`, which leaves out absent members. -/
def DatasetSemantics.codec : Codec DatasetSemantics := .object fields

/-- What a column is for. -/
inductive ColumnRole where
  | value
  | timestamp
  | instrument
  | label
  | other
  deriving DecidableEq

def ColumnRole.text : ColumnRole → String
  | .value => "value"
  | .timestamp => "timestamp"
  | .instrument => "instrument"
  | .label => "label"
  | .other => "other"

def ColumnRole.codec : Codec ColumnRole :=
  .enum [.value, .timestamp, .instrument, .label, .other] text (by intro a; cases a <;> simp [text])

/-- The fields of `DatasetRecordColumnV1`. -/
structure DatasetRecordColumnFields where
  sourceName : Utf8Text 1 240
  fieldId : SafeId
  dataType : DataType
  role : ColumnRole
  semanticPort : Option SemanticPort
  deriving DecidableEq

def DatasetRecordColumnFields.fields : Fields DatasetRecordColumnFields :=
  (Fields.and (.required "source_name" (Utf8Text.codec "source field name" 1 240))
    (.and (.required "field_id" SafeId.codec)
    (.and (.required "data_type" DataType.codec)
    (.and (.required "role" ColumnRole.codec)
      (.required "semantic_port" (SemanticPort.codec.nullable (fun _ => rfl)))
    (by decide)) (by decide)) (by decide)) (by decide)).iso
    (fun (a, b, c, d, e) => ⟨a, b, c, d, e⟩)
    (fun c => (c.sourceName, c.fieldId, c.dataType, c.role, c.semanticPort)) (fun _ => rfl)

/-- `_validate_column` -/
def DatasetRecordColumnFields.validateColumn (self : DatasetRecordColumnFields) :
    Except ValueError Unit := do
  if self.role = .timestamp ∧ self.dataType ≠ .timestamp then
    throw ⟨"a timestamp-role column must use timestamp data"⟩
  if self.semanticPort.any (fun port => port.1.direction ≠ .output) then
    throw ⟨"dataset semantic ports must have output direction"⟩

/-- `DatasetRecordColumnV1` -/
abbrev DatasetRecordColumn := {c : DatasetRecordColumnFields // c.validateColumn = .ok ()}

def DatasetRecordColumn.codec : Codec DatasetRecordColumn :=
  (Codec.object DatasetRecordColumnFields.fields).validated DatasetRecordColumnFields.validateColumn

/-- A timestamp field. -/
abbrev CanonicalTimestamp := {t : Text // isCanonicalTimestamp t = true}

def CanonicalTimestamp.codec : Codec CanonicalTimestamp :=
  Codec.text isCanonicalTimestamp "timestamp is not in canonical UTC form"

/-- `ObservationBoundsV1` -/
structure ObservationBounds where
  first : CanonicalTimestamp
  last : CanonicalTimestamp
  deriving DecidableEq

def ObservationBounds.fields : Fields ObservationBounds :=
  (Fields.and (.required "first" CanonicalTimestamp.codec)
    (.required "last" CanonicalTimestamp.codec) (by decide)).iso
    (fun (a, b) => ⟨a, b⟩) (fun o => (o.first, o.last)) (fun _ => rfl)

def ObservationBounds.codec : Codec ObservationBounds := .object fields

/-- `NormalizationEventCode` -/
inductive NormalizationEventCode where
  | jsonMissingFieldToNull
  | csvEmptyFieldToNull
  | csvNumberParsed
  | csvIntegerParsed
  | csvBooleanParsed
  | timestampToCanonicalUtc
  deriving DecidableEq

def NormalizationEventCode.value : NormalizationEventCode → String
  | .jsonMissingFieldToNull => "json_missing_field_to_null"
  | .csvEmptyFieldToNull => "csv_empty_field_to_null"
  | .csvNumberParsed => "csv_number_parsed"
  | .csvIntegerParsed => "csv_integer_parsed"
  | .csvBooleanParsed => "csv_boolean_parsed"
  | .timestampToCanonicalUtc => "timestamp_to_canonical_utc"

/-- `code.value.startswith("csv_")` -/
def NormalizationEventCode.isCsv : NormalizationEventCode → Bool
  | .csvEmptyFieldToNull | .csvNumberParsed | .csvIntegerParsed | .csvBooleanParsed => true
  | _ => false

/-- The column type that a CSV parsing event speaks about. -/
def NormalizationEventCode.expectedType : NormalizationEventCode → Option DataType
  | .csvNumberParsed => some .number
  | .csvIntegerParsed => some .integer
  | .csvBooleanParsed => some .boolean
  | _ => none

def NormalizationEventCode.codec : Codec NormalizationEventCode :=
  .enum [.jsonMissingFieldToNull, .csvEmptyFieldToNull, .csvNumberParsed, .csvIntegerParsed,
    .csvBooleanParsed, .timestampToCanonicalUtc] value (by intro a; cases a <;> simp [value])

/-- A strict count between two bounds. -/
abbrev Count (low high : ℤ) := {n : ℤ // (decide (low ≤ n) && decide (n ≤ high)) = true}

def Count.codec (low high : ℤ) : Codec (Count low high) :=
  Codec.integer (fun n => decide (low ≤ n) && decide (n ≤ high))
    "Input should be within its bounds"

/-- `NormalizationEventV1` -/
structure NormalizationEvent where
  code : NormalizationEventCode
  fieldId : SafeId
  count : Count 1 maxDatasetRows
  deriving DecidableEq

def NormalizationEvent.fields : Fields NormalizationEvent :=
  (Fields.and (.required "code" NormalizationEventCode.codec)
    (.and (.required "field_id" SafeId.codec) (.required "count" (Count.codec 1 maxDatasetRows))
    (by decide)) (by decide)).iso
    (fun (a, b, c) => ⟨a, b, c⟩) (fun e => (e.code, e.fieldId, e.count)) (fun _ => rfl)

def NormalizationEvent.codec : Codec NormalizationEvent := .object fields

/-- `DatasetFindingV1`; its severity is the one literal. -/
structure DatasetFinding where
  code : SafeId
  message : Utf8Text 1 500
  count : {n : ℤ // decide (1 ≤ n) = true}
  deriving DecidableEq

def DatasetFinding.fields : Fields DatasetFinding :=
  (Fields.and (.required "code" SafeId.codec)
    (.and (.required "severity" (.literal "warning"))
    (.and (.required "message" (Utf8Text.codec "finding message" 1 500))
      (.required "count" (Codec.integer (fun n => decide (1 ≤ n))
        "Input should be greater than or equal to 1"))
    (by decide)) (by decide)) (by decide)).iso
    (fun (a, _, b, c) => ⟨a, b, c⟩) (fun f => (f.code, (), f.message, f.count)) (fun _ => rfl)

def DatasetFinding.codec : Codec DatasetFinding := .object fields

/-! ## Records -/

/-- The fields of `DatasetRecordV1`. -/
structure DatasetRecordFields where
  payload : DatasetPayloadBinding
  rawSourceSha256 : Sha256Text
  source : DatasetRecordSource
  externalPreprocessing : ExternalPreprocessing
  columns : Bounded DatasetRecordColumn 1 maxDatasetColumns
  semantics : DatasetSemantics
  rowCount : Count 1 maxDatasetRows
  columnCount : Count 1 maxDatasetColumns
  observationBounds : Option ObservationBounds
  normalizationEvents : Bounded NormalizationEvent 0 768
  findings : Bounded DatasetFinding 0 50
  normalizer : RunnerIdentity
  deriving DecidableEq

def DatasetRecordFields.fields : Fields DatasetRecordFields :=
  (Fields.and (.required "host_schema_version" integerOne)
    (.and (.required "record_kind" (.literal "dataset"))
    (.and (.required "payload" DatasetPayloadBinding.codec)
    (.and (.required "raw_source_sha256" Sha256Text.codec)
    (.and (.required "source" DatasetRecordSource.codec)
    (.and (.required "external_preprocessing" ExternalPreprocessing.codec)
    (.and (.required "columns" (Bounded.codec DatasetRecordColumn.codec 1 maxDatasetColumns))
    (.and (.required "semantics" DatasetSemantics.codec)
    (.and (.required "row_count" (Count.codec 1 maxDatasetRows))
    (.and (.required "column_count" (Count.codec 1 maxDatasetColumns))
    (.and (.required "observation_bounds" (ObservationBounds.codec.nullable (fun _ => rfl)))
    (.and (.required "normalization_events" (Bounded.codec NormalizationEvent.codec 0 768))
    (.and (.required "findings" (Bounded.codec DatasetFinding.codec 0 50))
      (.required "normalizer" RunnerIdentity.codec)
    (by decide)) (by decide)) (by decide)) (by decide)) (by decide)) (by decide)) (by decide))
    (by decide)) (by decide)) (by decide)) (by decide)) (by decide)) (by decide)).iso
    (fun (_, _, a, b, c, d, e, f, g, h, i, j, k, l) => ⟨a, b, c, d, e, f, g, h, i, j, k, l⟩)
    (fun r => ((), (), r.payload, r.rawSourceSha256, r.source, r.externalPreprocessing, r.columns,
      r.semantics, r.rowCount, r.columnCount, r.observationBounds, r.normalizationEvents,
      r.findings, r.normalizer))
    (fun _ => rfl)

/-- What `_validate_record` requires of one normalization event. -/
def DatasetRecordFields.validateEvent (self : DatasetRecordFields) (event : NormalizationEvent) :
    Except ValueError Unit := do
  let isCsv := match self.source with | .localCsv _ _ => true | _ => false
  match self.columns.1.find? (fun c => c.1.fieldId = event.fieldId) with
  | none => throw ⟨"normalization event does not match the dataset"⟩
  | some column =>
      if self.rowCount.1 < event.count.1 then
        throw ⟨"normalization event does not match the dataset"⟩
      if event.code = .jsonMissingFieldToNull ∧ isCsv = true then
        throw ⟨"JSON missing-field events require a JSON/object source"⟩
      if event.code.isCsv = true ∧ isCsv = false then
        throw ⟨"CSV normalization events require a CSV source"⟩
      if event.code.expectedType.any (fun expected => column.1.dataType ≠ expected) then
        throw ⟨"CSV parsing event does not match its column type"⟩
      if event.code = .csvEmptyFieldToNull ∧ column.1.dataType = .string then
        throw ⟨"empty CSV strings are not converted to null"⟩
      if event.code = .timestampToCanonicalUtc ∧ column.1.dataType ≠ .timestamp then
        throw ⟨"timestamp event requires a timestamp column"⟩

/-- The canonical order of normalization events: by code, then by field ID, in UTF-8. -/
def eventKey (event : NormalizationEvent) : Bytes ×ₗ Bytes :=
  toLex (utf8Raw (py event.code.value), utf8Raw event.fieldId.1)

/-- `_validate_record` -/
def DatasetRecordFields.validateRecord (self : DatasetRecordFields) : Except ValueError Unit := do
  if self.columnCount.1 ≠ self.columns.1.length then
    throw ⟨"column_count does not match dataset columns"⟩
  if ¬ ((self.columns.1.map (fun c => c.1.fieldId)).Nodup ∧
      (self.columns.1.map (fun c => c.1.sourceName)).Nodup) then
    throw ⟨"dataset record column identifiers must be unique"⟩
  let timestampColumns := self.columns.1.filter (fun c => c.1.role = .timestamp)
  if 1 < timestampColumns.length then
    throw ⟨"a dataset may have at most one timestamp-role column"⟩
  if timestampColumns = [] ∧ self.observationBounds ≠ none then
    throw ⟨"observation bounds require a timestamp-role column"⟩
  if ¬ (self.normalizationEvents.1.map eventKey).Nodup then
    throw ⟨"normalization events must be unique by code and field ID"⟩
  if sortBy eventKey self.normalizationEvents.1 ≠ self.normalizationEvents.1 then
    throw ⟨"normalization events must use canonical UTF-8 ordering"⟩
  self.normalizationEvents.1.forM self.validateEvent
  if self.findings.1 ≠ [] then
    throw ⟨"dataset findings require a separately frozen code and message vocabulary"⟩
  if self.source.provenance.contentSha256.any (fun digest => digest ≠ self.rawSourceSha256) then
    throw ⟨"provenance content digest does not match the accepted source"⟩
  validateSemver self.normalizer.version.1

/-- `DatasetRecordV1` -/
abbrev DatasetRecord := {r : DatasetRecordFields // r.validateRecord = .ok ()}

/-- The dump is `canonical_projection`. -/
def DatasetRecord.codec : Codec DatasetRecord :=
  (Codec.object DatasetRecordFields.fields).validated DatasetRecordFields.validateRecord

/-- `DatasetRecordV1.digest` -/
def DatasetRecord.digest (record : DatasetRecord) : Except ValueError Text :=
  canonicalHash (DatasetRecord.codec.encode record) datasetRecordHashDomain

/-- `DatasetRecordV1.reference` -/
def DatasetRecord.reference (record : DatasetRecord) : Except ValueError Text := do
  return makeReference .dataset (← record.digest)

/-- The cells of one column, in row order. -/
def DatasetPayload.column (payload : DatasetPayload) (index : ℕ) : List Value :=
  payload.1.rows.1.filterMap (fun row => row[index]?.map (fun cell => cell.value))

/-- The observations of a column, when every one of them is a string. -/
def observations (cells : List Value) : Option (List Text) :=
  (cells.filter (fun cell => cell.isNull = false)).mapM (fun cell =>
    match cell with
    | .str s => some s
    | _ => none)

/-- `DatasetRecordV1.validate_payload` -/
def DatasetRecord.validatePayload (self : DatasetRecord) (payload : DatasetPayload) :
    Except ValueError Unit := do
  if (← payload.digest) ≠ self.1.payload.sha256.1 then
    throw ⟨"dataset payload digest does not match its record"⟩
  if (payload.1.rows.1.length : ℤ) ≠ self.1.rowCount.1 ∨
      (payload.1.columns.1.length : ℤ) ≠ self.1.columnCount.1 then
    throw ⟨"dataset payload dimensions do not match its record"⟩
  if payload.1.columns.1.map (fun c => (c.fieldId, c.dataType)) ≠
      self.1.columns.1.map (fun c => (c.1.fieldId, c.1.dataType)) then
    throw ⟨"dataset payload columns do not match its record"⟩
  match self.1.columns.1.findIdx? (fun c => c.1.role = .timestamp) with
  | some index =>
      match observations (payload.column index) with
      | some (first :: rest) =>
          -- bounds that are not timestamps, which the constructor refuses, are equal to none
          if self.1.observationBounds.map (fun bounds => (bounds.first.1, bounds.last.1)) ≠
              some (first, (first :: rest).getLast (by simp)) then
            throw ⟨"dataset observation bounds do not match its payload"⟩
      | _ => throw ⟨"timestamp-role column has no valid observations"⟩
  | none =>
      if self.1.observationBounds ≠ none then
        throw ⟨"dataset without timestamp role cannot have observation bounds"⟩

end DataRecords
