import QueryKit.Schema.Snapshot
set_option autoImplicit false

/-! # Schemas in exchange

A table is a record of its name and its columns, a column a record of its parts. The columns of a
table can be given by their names alone, which makes them texts that may be null. -/

namespace QueryKit

instance : Encode Table := ⟨Table.toJson⟩

instance : Encode SchemaSnapshot where
  encode s := .ofFields [("version", encode s.version), ("tables", encode s.tables)]

/-- The column at a place, from its name or its parts. -/
def Column.ofExchange? (position : Nat) (j : Json) : Option Column :=
  match j with
  | .string name => some ⟨name, "text", false, none, Int32.ofNat position⟩
  | j => do
    return ⟨← j.read? "name", ← j.readOr "text" "data_type", ← j.readOr false "not_null",
      ← j.read? "default_expr", ← j.readOr (Int32.ofNat position) "ordinal"⟩

/-- Columns in order. -/
def Column.listOfExchange? (position : Nat) : List Json → Option (List Column)
  | [] => some []
  | j :: rest => do
    return (← Column.ofExchange? position j) :: (← Column.listOfExchange? (position + 1) rest)

/-- The table of a name with these columns. -/
def Table.ofExchange? (name : String) (columns : Json) : Option Table := do
  return ⟨name, ← Column.listOfExchange? 1 (← decode? columns)⟩

end QueryKit
