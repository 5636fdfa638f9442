import QueryKit.Exchange.Basic
import QueryKit.Json.Record
set_option autoImplicit false

/-! # Tables

The description of a table as its store has it: the columns in order, each with its type and what is
stored when no value is given. -/

namespace QueryKit

/-- A column of a table. -/
structure Column where
  name : String
  dataType : String
  notNull : Bool
  /-- The expression for the value that is stored when none is given. -/
  defaultExpr : Option String
  /-- The place among the columns, from 1. -/
  ordinal : Int32
deriving DecidableEq

/-- A table. -/
structure Table where
  name : String
  columns : List Column
deriving DecidableEq

namespace Table

/-- The column of a name. -/
def column? (t : Table) (name : String) : Option Column :=
  t.columns.find? fun c => c.name == name

/-- Has a column of a name. -/
def hasColumn (t : Table) (name : String) : Bool :=
  (t.column? name).isSome

/-- The names of the columns in order. -/
def columnNames (t : Table) : List String :=
  t.columns.map Column.name

end Table

/-- A column that was expected of a table and is not there. -/
structure MissingColumn where
  table : String
  column : String
deriving DecidableEq, Repr

/-- The text for a missing column. -/
def MissingColumn.message (m : MissingColumn) : String :=
  "column '" ++ m.column ++ "' not found on table '" ++ m.table ++ "'"

/-! ## JSON -/

namespace Column

/-- The names of the fields of a column. -/
def fieldNames : List String := ["name", "data_type", "not_null", "default_expr", "ordinal"]

/-- A column as a record. -/
def toJson (c : Column) : Json :=
  .object
    [("name", .string c.name), ("data_type", .string c.dataType), ("not_null", .bool c.notNull),
      ("default_expr", encode c.defaultExpr), ("ordinal", encode c.ordinal)]

/-- Reads a column. A default expression that is not there is none. -/
def ofWritten? (w : Json.Written) : Option Column := do
  match ← w.recordFields? fieldNames with
  | [some name, some dataType, some notNull, defaultExpr, some ordinal] =>
    return ⟨← name.read?, ← dataType.read?, ← notNull.read?,
      ← (defaultExpr.getD .null).read?, ← ordinal.read?⟩
  | _ => none

end Column

namespace Table

/-- The names of the fields of a table. -/
def fieldNames : List String := ["name", "columns"]

/-- A table as a record. -/
def toJson (t : Table) : Json :=
  .object [("name", .string t.name), ("columns", .array (t.columns.map Column.toJson))]

/-- Reads a table. -/
def ofWritten? (w : Json.Written) : Option Table := do
  match ← w.recordFields? fieldNames with
  | [some name, some columns] => return ⟨← name.read?, ← columns.records? Column.ofWritten?⟩
  | _ => none

end Table

end QueryKit
