import QueryKit.Driver.Scripted
import QueryKit.Exchange.Value
import QueryKit.Transaction
set_option autoImplicit false

/-! # Rows and outcomes in exchange

A row is a list of columns with their values. An outcome is an object that holds either what an
operation answered or the kind of the error and its text. -/

namespace QueryKit

instance : Encode Row := ⟨fun row => encode row.entries⟩

instance : Decode Row := ⟨fun j => (decode? j : Option (List (String × Value))).map Row.ofList⟩

instance : Encode Statement where
  encode s := .ofFields [("sql", .string s.sql), ("bindings", encode s.bindings)]

instance : Encode QueryResult where
  encode r :=
    .ofFields
      [("rows", encode r.rows), ("row_count", encode r.rowCount), ("fields", encode r.fields),
        ("empty", encode r.isEmpty)]

/-! ## Errors -/

namespace Error

/-- The name of the kind of an error. -/
def kind : Error → String
  | .connection _ => "Connection"
  | .query _ => "Query"
  | .notFound _ => "NotFound"
  | .uniqueViolation _ => "UniqueViolation"
  | .foreignKeyViolation _ => "ForeignKeyViolation"
  | .notNullViolation _ => "NotNullViolation"
  | .tableNotFound _ => "TableNotFound"
  | .decode .. => "Decode"
  | .validation _ => "Validation"
  | .unsupportedConstruct .. => "UnsupportedConstruct"
  | .lateralUnsupported _ => "LateralUnsupported"
  | .unknownRelation .. => "UnknownRelation"
  | .unknownModel _ => "UnknownModel"
  | .unknownMorphType _ => "UnknownMorphType"
  | .transactionAlreadyActive => "TransactionAlreadyActive"
  | .noActiveTransaction => "NoActiveTransaction"
  | .serialization _ => "Serialization"
  | .pool _ => "Pool"
  | .other _ => "Other"

/-- The error of a kind, from the texts it was raised with. -/
def ofParts? : List String → Option Error
  | ["Connection", m] => some (.connection m)
  | ["Query", m] => some (.query m)
  | ["NotFound", m] => some (.notFound m)
  | ["UniqueViolation", m] => some (.uniqueViolation m)
  | ["ForeignKeyViolation", m] => some (.foreignKeyViolation m)
  | ["NotNullViolation", m] => some (.notNullViolation m)
  | ["TableNotFound", m] => some (.tableNotFound m)
  | ["Decode", c, m] => some (.decode c (.reported m))
  | ["Validation", m] => some (.validation (.reported m))
  | ["UnsupportedConstruct", t, c] => some (.unsupportedConstruct t (.reported c))
  | ["LateralUnsupported", d] => some (.lateralUnsupported d)
  | ["UnknownRelation", m, r] => some (.unknownRelation m r)
  | ["UnknownModel", m] => some (.unknownModel m)
  | ["UnknownMorphType", t] => some (.unknownMorphType t)
  | ["TransactionAlreadyActive"] => some .transactionAlreadyActive
  | ["NoActiveTransaction"] => some .noActiveTransaction
  | ["Serialization", m] => some (.serialization m)
  | ["Pool", m] => some (.pool m)
  | ["Other", m] => some (.other m)
  | _ => none

/-- The text of the error is fixed by this library and not by what reads the data. -/
def hasFixedText : Error → Bool
  | .serialization _ => false
  | .decode _ fault =>
    ["expected ", "column not present", "unexpected NULL"].any fun start =>
      Text.startsWith start fault.message
  | _ => true

/-- The fields of a failed outcome. -/
def fields (e : Error) : List (String × Json) :=
  ("error", .string e.kind) :: (if e.hasFixedText then [("message", .string e.message)] else [])

end Error

instance : Encode Error := ⟨fun e => .ofFields e.fields⟩

instance : Decode Error := ⟨fun j => (decode? j).bind Error.ofParts?⟩

/-- The fields of an outcome. -/
def outcomeFields {α : Type} [Encode α] : Except Error α → List (String × Json)
  | .ok a => [("ok", encode a)]
  | .error e => e.fields

instance {α : Type} [Encode α] : Encode (Except Error α) := ⟨fun r => .ofFields (outcomeFields r)⟩

/-! ## Scripted stores -/

instance : Encode TransactionState where
  encode
    | .idle => .string "Idle"
    | .active => .string "Active"
    | .committed => .string "Committed"
    | .rolledBack => .string "RolledBack"

instance : Decode ScriptRule where
  decode? j := do
    let insertId ← match j.field? "insert_id" with
      | some v => (decode? v).map some
      | none => some none
    pure
      { mark := ← j.read? "on"
        once := ← j.readOr false "once"
        error := ← j.read? "error"
        rows := ← j.read? "rows"
        keyColumn := ← j.read? "by"
        affectedRows := ← j.readOr 1 "affected"
        insertId }

instance : Encode LogEntry where
  encode
    | .query s => .array [.string "query", .string s.sql, encode s.bindings]
    | .execute s => .array [.string "execute", .string s.sql, encode s.bindings]
    | .began => .array [.string "tx", .string "BEGIN", .array []]
    | .committed => .array [.string "tx", .string "COMMIT", .array []]
    | .rolledBack => .array [.string "tx", .string "ROLLBACK", .array []]

end QueryKit
