import QueryKit.Query.Basic
import QueryKit.Sql.Identifier
import QueryKit.Row.Basic
import QueryKit.Value.Conversion
set_option autoImplicit false

/-! # Fields of documents

A column becomes a field of the same name. Qualifiers of the query's own table are dropped, the
primary key is stored under a name of its own, and columns of joined collections stay dotted. On the
way back the stored key gets the name of the primary key again. -/

namespace QueryKit.Document

/-- The field that holds the primary key. -/
def idField : String := "_id"

/-- What stands before and after the first point of a reference. -/
def splitQualifier? (column : String) : Option (String × String) :=
  let cs := column.toList
  match cs.dropWhile (· != '.') with
  | [] => none
  | _ :: rest => some (String.ofList (cs.takeWhile (· != '.')), String.ofList rest)

/-- What stands before the first point of a reference. -/
def qualifier? (column : String) : Option String :=
  (splitQualifier? column).map Prod.fst

/-- A reference without its qualifier. -/
def withoutQualifier (column : String) : String :=
  ((splitQualifier? column).map Prod.snd).getD column

/-- The first word of a table reference. -/
def tableName (table : String) : String :=
  match Text.words table.toList with
  | name :: _ => String.ofList name
  | [] => table

/-- A name that the query's own columns may be qualified by. -/
def ownsQualifier (q : Query) (name : String) : Bool :=
  name == Sql.tableReference q.table || name == tableName q.table

/-- The field for a bare column. -/
def bareField (q : Query) (column : String) : String :=
  if column == q.primaryKey then idField else column

/-- The field for a column. -/
def fieldOf (q : Query) (column : String) : String :=
  match splitQualifier? column with
  | some (name, rest) => if ownsQualifier q name then bareField q rest else column
  | none => bareField q column

/-- The document with the values of columns. -/
def documentOf (q : Query) (columns : List (String × Value)) : Json :=
  .ofFields (columns.map fun (c, v) => (fieldOf q c, v.toJson))

/-- The row of a document that a store answers. -/
def rowOf (document : Json) (primaryKey : String) : Row :=
  match document with
  | .object fields =>
    Row.ofList (fields.map fun (field, v) =>
      (if field == idField then primaryKey else field, Value.ofJson v))
  | _ => Row.empty

/-- A row in which the stored key has the name of the primary key. -/
def restoreKey (primaryKey : String) (row : Row) : Row :=
  match row.take idField with
  | (some id, rest) => rest.push primaryKey id
  | (none, _) => row

end QueryKit.Document
