set_option autoImplicit false

/-! # Relations

A relation says which column of a record is matched against which column of the related rows:

* one or many that belong to the record: its key against their foreign key;
* the one that the record belongs to: its foreign key against their key;
* many on both sides: its key against their key, by way of a pivot table;
* one or many of several kinds of owner: as the first, and a type column on their side names the
  kind of the record;
* the owner of several kinds: its owner column against their key, and its type column names their
  kind. -/

namespace QueryKit

/-- The kinds of relations. -/
inductive RelationKind
  | hasOne
  | hasMany
  | belongsTo
  | belongsToMany
  | morphOne
  | morphMany
  | morphTo
deriving DecidableEq, Repr

namespace RelationKind

/-- Leads to any number of records. -/
def isMany : RelationKind → Bool
  | .hasMany | .belongsToMany | .morphMany => true
  | _ => false

/-- Has a type column. -/
def isPolymorphic : RelationKind → Bool
  | .morphOne | .morphMany | .morphTo => true
  | _ => false

/-- The name of a kind. -/
def name : RelationKind → String
  | .hasOne => "HasOne"
  | .hasMany => "HasMany"
  | .belongsTo => "BelongsTo"
  | .belongsToMany => "BelongsToMany"
  | .morphOne => "MorphOne"
  | .morphMany => "MorphMany"
  | .morphTo => "MorphTo"

end RelationKind

/-- The table between the two sides of a relation that is many on both. -/
structure Pivot where
  table : String
  parentColumn : String
  relatedColumn : String
deriving DecidableEq, Repr

/-- A named relation of a model. -/
structure Relation where
  name : String
  kind : RelationKind
  /-- The related model; absent where every record names its own. -/
  related : Option String := none
  parentKey : String := "id"
  relatedKey : String := "id"
  pivot : Option Pivot := none
  /-- The type column: on the record where it belongs to an owner, on the related side otherwise. -/
  typeColumn : Option String := none
deriving DecidableEq, Repr

namespace Relation

/-- At most one related row has the record's key in its foreign key. -/
def hasOne (name related foreignKey : String) : Relation :=
  { name, kind := .hasOne, related := some related, relatedKey := foreignKey }

/-- Any number of related rows have the record's key in their foreign key. -/
def hasMany (name related foreignKey : String) : Relation :=
  { name, kind := .hasMany, related := some related, relatedKey := foreignKey }

/-- The record has the key of the related row in its foreign key. -/
def belongsTo (name related foreignKey : String) : Relation :=
  { name, kind := .belongsTo, related := some related, parentKey := foreignKey }

/-- Rows of a pivot table pair records with related rows. -/
def belongsToMany (name related table parentColumn relatedColumn : String) : Relation :=
  { name, kind := .belongsToMany, related := some related
    pivot := some { table, parentColumn, relatedColumn } }

/-- The columns of a morph: where the owner's key stands and where its type stands. -/
def morphColumns (morph : String) : String × String :=
  (morph ++ "_id", morph ++ "_type")

/-- At most one related row has the record for its owner. -/
def morphOne (name related morph : String) : Relation :=
  { name, kind := .morphOne, related := some related, relatedKey := (morphColumns morph).1
    typeColumn := some (morphColumns morph).2 }

/-- Any number of related rows have the record for their owner. -/
def morphMany (name related morph : String) : Relation :=
  { name, kind := .morphMany, related := some related, relatedKey := (morphColumns morph).1
    typeColumn := some (morphColumns morph).2 }

/-- The record has an owner, whose type it names. -/
def morphTo (name morph : String) : Relation :=
  { name, kind := .morphTo, parentKey := (morphColumns morph).1
    typeColumn := some (morphColumns morph).2 }

end Relation

end QueryKit
