import QueryKit.Exchange.Outcome
import QueryKit.Model.Registry
set_option autoImplicit false

/-! # Relations and records in exchange

A relation is given by its kind and what the kind needs; its key columns can be given as well, and
parts of it can be cleared. A record is written with the relations of its model that are loaded. -/

namespace QueryKit

/-! ## Relations -/

/-- The relation of a kind. -/
def Relation.ofKind? (kind name : String) (j : Json) : Option Relation := do
  match kind with
  | "has_one" => return .hasOne name (← j.read? "related") (← j.read? "fk")
  | "has_many" => return .hasMany name (← j.read? "related") (← j.read? "fk")
  | "belongs_to" => return .belongsTo name (← j.read? "related") (← j.read? "fk")
  | "belongs_to_many" =>
    return .belongsToMany name (← j.read? "related") (← j.read? "pivot") (← j.read? "fk")
      (← j.read? "rk")
  | "morph_one" => return .morphOne name (← j.read? "related") (← j.read? "morph")
  | "morph_many" => return .morphMany name (← j.read? "related") (← j.read? "morph")
  | "morph_to" => return .morphTo name (← j.read? "morph")
  | _ => none

/-- The relation without one of its parts. -/
def Relation.clear (r : Relation) (part : String) : Relation :=
  match part with
  | "pivot" => { r with pivot := none }
  | "related" => { r with related := none }
  | "morph_type" => { r with typeColumn := none }
  | _ => r

instance : Decode Relation where
  decode? j := do
    let r ← Relation.ofKind? (← j.read? "kind") (← j.read? "name") j
    let parts : List String ← j.read? "clear"
    let keyed :=
      { r with
        parentKey := ← j.readOr r.parentKey "parent_key"
        relatedKey := ← j.readOr r.relatedKey "related_key" }
    return parts.foldl Relation.clear keyed

instance : Encode Pivot := ⟨fun p => encode [p.table, p.parentColumn, p.relatedColumn]⟩

instance : Encode Relation where
  encode r :=
    .ofFields
      [("name", .string r.name), ("kind", .string r.kind.name), ("many", .bool r.kind.isMany),
        ("poly", .bool r.kind.isPolymorphic), ("related", encode r.related),
        ("parent_key", .string r.parentKey), ("related_key", .string r.relatedKey),
        ("morph_type", encode r.typeColumn), ("pivot", encode r.pivot)]

/-! ## Records -/

namespace Record

mutual

/-- The exchange form of a record. -/
def toExchange : Record → Json
  | ⟨model, attributes, _, relations⟩ =>
    .ofFields
      [("model", .string model.name), ("attrs", encode attributes),
        ("rel", .ofFields (relationsToExchange model relations))]

/-- The loaded relations of a model as fields. -/
def relationsToExchange (model : Model) : List (String × Loaded Record) → List (String × Json)
  | [] => []
  | (name, loaded) :: rest =>
    if model.relations.any (·.name == name) then
      (name, loadedToExchange loaded) :: relationsToExchange model rest
    else relationsToExchange model rest

/-- What a relation is loaded with. -/
def loadedToExchange : Loaded Record → Json
  | .one none => .tagged "one" .null
  | .one (some r) => .tagged "one" r.toExchange
  | .many rs => .tagged "many" (.array (recordsToExchange rs))

/-- Record by record. -/
def recordsToExchange : List Record → List Json
  | [] => []
  | r :: rest => r.toExchange :: recordsToExchange rest

end

end Record

instance : Encode Record := ⟨Record.toExchange⟩

end QueryKit
