import QueryKit.Error
import QueryKit.Json.Parser
import QueryKit.Json.Printer
import QueryKit.Schema.Table
import QueryKit.Timestamp.Lenient
set_option autoImplicit false

/-! # Schema snapshots

A snapshot lists the known tables by name, with the time at which it was taken. It is kept as a file,
so that a new process need not ask the store again. A file of another version is passed over; a file
that is no snapshot at all is an error. -/

namespace QueryKit

/-- The tables known at a time. -/
structure SchemaSnapshot where
  version : UInt32
  retrievedAt : Timestamp
  tables : List Table
deriving DecidableEq

namespace SchemaSnapshot

/-- The version of the snapshots that are written and used. -/
def currentVersion : UInt32 := 1

/-- The snapshot of tables, which it lists in increasing order of their names. -/
def ofTables (now : Timestamp) (tables : List Table) : SchemaSnapshot :=
  { version := currentVersion
    retrievedAt := now
    tables := tables.mergeSort fun a b => !(b.name < a.name) }

/-- The text of a snapshot file. -/
def toText (s : SchemaSnapshot) : String :=
  Json.pretty 0
    (.object
      [("version", encode s.version), ("retrieved_at", .string s.retrievedAt.toZuluText),
        ("tables", .array (s.tables.map Table.toJson))])

/-- The names of the fields of a snapshot. -/
def fieldNames : List String := ["version", "retrieved_at", "tables"]

/-- Reads the text of a snapshot file. -/
def ofText? (text : String) : Option SchemaSnapshot := do
  match ← (← Json.written? text).recordFields? fieldNames with
  | [some version, some retrievedAt, some tables] =>
    let time : String ← retrievedAt.read?
    return ⟨← version.read?, ← Timestamp.ofLenientText? time.toList,
      ← tables.records? Table.ofWritten?⟩
  | _ => none

/-- The snapshot in a file, if there is a file and it is of the current version. -/
def load (file : Option String) : Except Error (Option SchemaSnapshot) :=
  match file with
  | none => .ok none
  | some text =>
    match ofText? text with
    | some s => .ok (if s.version = currentVersion then some s else none)
    | none => .error (.serialization "Failed to parse schema snapshot")

end SchemaSnapshot

end QueryKit
