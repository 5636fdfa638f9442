import QueryKit.Model.Record
set_option autoImplicit false

/-! # Registries of models

A registry knows models by name, and by the types under which their records own others. -/

namespace QueryKit

/-- Models by name, and model names by type. -/
structure ModelRegistry where
  models : Assoc Model := []
  morphs : Assoc String := []

namespace ModelRegistry

/-- Adds a model and its type. -/
def register (m : Model) (reg : ModelRegistry) : ModelRegistry :=
  { models := reg.models.set m.name m, morphs := reg.morphs.set m.morphType m.name }

/-- Adds a type for a model. -/
def addMorph (tag model : String) (reg : ModelRegistry) : ModelRegistry :=
  { reg with morphs := reg.morphs.set tag model }

/-- The model of a name. -/
def get (name : String) (reg : ModelRegistry) : Except Error Model :=
  match reg.models.get? name with
  | some m => .ok m
  | none => .error (.unknownModel name)

/-- The model of a type. -/
def resolveMorph (tag : String) (reg : ModelRegistry) : Except Error Model :=
  match reg.morphs.get? tag with
  | some name => reg.get name
  | none => .error (.unknownMorphType tag)

/-- The records of rows of a model. -/
def hydrate (model : String) (rows : List Row) (reg : ModelRegistry) : Except Error (List Record) :=
  (reg.get model).map fun m => rows.map (Record.ofRow m)

end ModelRegistry

end QueryKit
