import QueryKit.Assoc
import QueryKit.Value.Basic
set_option autoImplicit false

/-! # Rows

A row is a list of columns with their values, in the order in which they were first set. A column
name occurs once: setting it again keeps its place and replaces its value. -/

namespace QueryKit

/-- A row, in which every column name occurs once. -/
structure Row where
  entries : Assoc Value
  nodup : entries.keys.Nodup

namespace Row

/-- The row without columns. -/
def empty : Row := ⟨[], List.nodup_nil⟩

instance : Inhabited Row := ⟨empty⟩

/-- Sets a column, at its place if it is there and at the end otherwise. -/
def push (column : String) (value : Value) (row : Row) : Row :=
  ⟨row.entries.set column value, Assoc.nodup_keys_set column value row.entries row.nodup⟩

/-- The value of a column. -/
def get? (column : String) (row : Row) : Option Value :=
  row.entries.get? column

/-- Leaves a column out. -/
def erase (column : String) (row : Row) : Row :=
  ⟨row.entries.erase column, Assoc.nodup_keys_erase column row.entries row.nodup⟩

/-- The value of a column together with the row without it. -/
def take (column : String) (row : Row) : Option Value × Row :=
  (row.get? column, row.erase column)

/-- The column names in order. -/
def columns (row : Row) : List String :=
  row.entries.keys

/-- The values in column order. -/
def values (row : Row) : List Value :=
  row.entries.map Prod.snd

/-- The number of columns. -/
def size (row : Row) : Nat :=
  row.entries.length

/-- Has no columns. -/
def isEmpty (row : Row) : Bool :=
  row.entries.isEmpty

/-- Sets columns one after another. -/
def pushAll (row : Row) (entries : List (String × Value)) : Row :=
  entries.foldl (fun acc (c, v) => acc.push c v) row

/-- The row that arises by setting columns one after another. -/
def ofList (entries : List (String × Value)) : Row :=
  empty.pushAll entries

/-- The same columns in the same order with the same values. -/
def same (a b : Row) : Bool :=
  a.columns == b.columns && Value.sameItems a.values b.values

end Row

end QueryKit
