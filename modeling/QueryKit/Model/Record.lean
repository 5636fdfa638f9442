import QueryKit.Model.Basic
import QueryKit.Row.Basic
import QueryKit.Value.Key
set_option autoImplicit false

/-! # Records

A record is a row of a model together with the related records that have been loaded. It remembers
the row it came from, so that it knows which columns have changed. -/

namespace QueryKit

/-- What a relation has been loaded with. -/
inductive Loaded (α : Type)
  | one (record : Option α)
  | many (records : List α)

namespace Loaded

variable {α : Type}

/-- All records, of either form. -/
def records : Loaded α → List α
  | .one record => record.toList
  | .many records => records

/-- The record of a relation to one. -/
def asOne : Loaded α → Option α
  | .one record => record
  | .many _ => none

/-- The records of a relation to many. -/
def asMany : Loaded α → List α
  | .one _ => []
  | .many records => records

/-- The number of records. -/
def size (loaded : Loaded α) : Nat :=
  loaded.records.length

/-- Has no records. -/
def isEmpty (loaded : Loaded α) : Bool :=
  loaded.size == 0

/-- Puts other records into the places of the present ones, in order. -/
def refill (loaded : Loaded α) (records : List α) : Loaded α :=
  match loaded with
  | .one none => .one none
  | .one (some _) => .one records.head?
  | .many _ => .many records

end Loaded

/-- What a relation is loaded with when these records are found. -/
def Relation.loaded {α : Type} (r : Relation) (found : List α) : Loaded α :=
  if r.kind.isMany then .many found else .one found.head?

/-- A row of a model with its loaded relations. -/
structure Record where
  model : Model
  attributes : Row
  /-- The row that the record came from, or was last saved as. -/
  stored : Row
  relations : List (String × Loaded Record)

namespace Record

/-- The record of a row, without relations. -/
def ofRow (model : Model) (row : Row) : Record :=
  { model, attributes := row, stored := row, relations := [] }

/-! ## Attributes -/

/-- The value held in a column. -/
def raw? (column : String) (r : Record) : Option Value :=
  r.attributes.get? column

/-- A value as it is read from a column of a model. -/
def accessed (model : Model) (column : String) (v : Value) : Value :=
  match model.accessors.get? column with
  | some change => change v
  | none => v

/-- The value of a column as it is read; a column that is not there is null. -/
def get (column : String) (r : Record) : Value :=
  accessed r.model column ((r.raw? column).getD .null)

/-- A value as it is written to a column of a model. -/
def mutated (model : Model) (column : String) (v : Value) : Value :=
  match model.mutators.get? column with
  | some change => change v
  | none => v

/-- Writes a value to a column. -/
def set (column : String) (v : Value) (r : Record) : Record :=
  { r with attributes := r.attributes.push column (mutated r.model column v) }

/-- The value of the primary key. -/
def key? (r : Record) : Option Value :=
  r.raw? r.model.primaryKey

/-- What identifies the value of a column. -/
def keyOf? (column : String) (r : Record) : Option Key :=
  (r.raw? column).bind Value.key?

/-! ## Changes -/

/-- The value of a column in a row is not this one. -/
def differs (row : Row) (column : String) (v : Value) : Bool :=
  match row.get? column with
  | some old => !old.same v
  | none => true

/-- The columns whose values differ from those of the stored row. -/
def dirty (r : Record) : Row :=
  Row.ofList (r.attributes.entries.filter fun (column, v) => differs r.stored column v)

/-- Some column has changed. -/
def isDirty (r : Record) : Bool :=
  !r.dirty.isEmpty

/-- Makes the present row the stored one. -/
def sync (r : Record) : Record :=
  { r with stored := r.attributes }

/-! ## Relations -/

/-- What a relation has been loaded with. -/
def loaded? (name : String) (r : Record) : Option (Loaded Record) :=
  Assoc.get? name r.relations

/-- Loads a relation. -/
def attach (name : String) (loaded : Loaded Record) (r : Record) : Record :=
  { r with relations := Assoc.set name loaded r.relations }

/-- The records of a relation; none if it is not loaded. -/
def related (name : String) (r : Record) : List Record :=
  match r.loaded? name with
  | some loaded => loaded.records
  | none => []

/-- Puts other records into the places of those of a relation, in order. -/
def refill (name : String) (records : List Record) (r : Record) : Record :=
  match r.loaded? name with
  | some loaded => r.attach name (loaded.refill records)
  | none => r

/-! ## JSON -/

/-- The attributes as they are read. -/
def attributeFields (model : Model) (row : Row) : List (String × Json) :=
  row.entries.map fun (column, v) => (column, (accessed model column v).toJson)

mutual

/-- The attributes and the loaded relations as one object. A relation hides an attribute of its
    name. -/
def toJson : Record → Json
  | ⟨model, attributes, _, relations⟩ =>
    .ofFields (attributeFields model attributes ++ relationFields relations)

/-- The loaded relations as fields. -/
def relationFields : List (String × Loaded Record) → List (String × Json)
  | [] => []
  | (name, loaded) :: rest => (name, loadedJson loaded) :: relationFields rest

/-- A record, null or a list of records. -/
def loadedJson : Loaded Record → Json
  | .one none => .null
  | .one (some r) => r.toJson
  | .many rs => .array (recordsJson rs)

/-- Record by record. -/
def recordsJson : List Record → List Json
  | [] => []
  | r :: rest => r.toJson :: recordsJson rest

end

end Record

end QueryKit
