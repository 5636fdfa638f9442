import QueryKit.Assoc
import QueryKit.Builder.Scope
import QueryKit.Builder.Clauses
import QueryKit.Model.Relation
set_option autoImplicit false

/-! # Models

A model is the description of the records of one table: its columns, its relations, and the changes
that values undergo when they are read and written. -/

namespace QueryKit

/-- The description of the records of a table. -/
structure Model where
  name : String
  table : String
  primaryKey : String := "id"
  /-- The declared columns; none if they are not declared. -/
  columns : List String := []
  /-- The relations, of which the first one of a name counts. -/
  relations : List Relation := []
  /-- The changes on reading, by column. -/
  accessors : Assoc (Value → Value) := []
  /-- The changes on writing, by column. -/
  mutators : Assoc (Value → Value) := []
  scopes : List (String × Scope) := []
  /-- The type under which records of the model own others, if it is not the name. -/
  morphAlias : Option String := none

namespace Model

/-- The type under which records of the model own others. -/
def morphType (m : Model) : String :=
  m.morphAlias.getD m.name

/-- Adds a relation, in place of one of the same name. -/
def addRelation (m : Model) (r : Relation) : Model :=
  { m with relations := m.relations.filter (·.name != r.name) ++ [r] }

/-- Sets the change that a column undergoes on reading. -/
def addAccessor (m : Model) (column : String) (change : Value → Value) : Model :=
  { m with accessors := m.accessors.set column change }

/-- Sets the change that a column undergoes on writing. -/
def addMutator (m : Model) (column : String) (change : Value → Value) : Model :=
  { m with mutators := m.mutators.set column change }

/-- The relation of a name. -/
def relation (m : Model) (name : String) : Except Error Relation :=
  match m.relations.find? (·.name == name) with
  | some r => .ok r
  | none => .error (.unknownRelation m.name name)

/-- A relation is found under its own name. -/
theorem name_of_relation {m : Model} {name : String} {r : Relation} (h : m.relation name = .ok r) :
    r.name = name := by
  rw [relation] at h
  split at h
  · next hfound =>
    cases h
    have hname := List.find?_some hfound
    exact eq_of_beq hname
  · cases h

/-- A builder for the table of the model, under its scopes. -/
def query (m : Model) (d : Dialect) : Builder :=
  m.scopes.foldl (fun b (name, change) => b.scope name change)
    ((Builder.new d m.table).primaryKey m.primaryKey)

end Model

end QueryKit
