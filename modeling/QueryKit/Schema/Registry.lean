import QueryKit.Assoc
import QueryKit.Driver.Basic
import QueryKit.Schema.Snapshot
set_option autoImplicit false

/-! # Schema registries

A registry keeps the tables that have been asked for. A table is loaded when it is not known, and
loaded again when asked to; a statement that fails because the known table is out of date is run once
more after that. -/

namespace QueryKit

/-- Where descriptions of tables come from. -/
structure SchemaSource (σ : Type) where
  /-- Loads a table; none if there is no such table. -/
  loadTable : String → Action σ (Option Table)
  /-- The time at which a state is. -/
  now : σ → Timestamp

/-- The known tables. -/
structure SchemaRegistry where
  tables : Assoc Table := []
  /-- A snapshot file is written after every refresh. -/
  persists : Bool := false
  /-- The text of the snapshot file, if there is one. -/
  file : Option String := none

namespace SchemaRegistry

/-- The table known under a name. -/
def cached (reg : SchemaRegistry) (table : String) : Option Table :=
  reg.tables.get? table

/-- Forgets a table. -/
def invalidate (reg : SchemaRegistry) (table : String) : SchemaRegistry :=
  { reg with tables := reg.tables.erase table }

/-- Forgets all tables. -/
def invalidateAll (reg : SchemaRegistry) : SchemaRegistry :=
  { reg with tables := [] }

/-- Knows a table under a name. -/
def insert (reg : SchemaRegistry) (name : String) (t : Table) : SchemaRegistry :=
  { reg with tables := reg.tables.set name t }

/-- Knows a table under its own name, whatever the source says. -/
def register (reg : SchemaRegistry) (t : Table) : SchemaRegistry :=
  reg.insert t.name t

/-- The snapshot of the known tables. -/
def snapshot (reg : SchemaRegistry) (now : Timestamp) : SchemaSnapshot :=
  .ofTables now (reg.tables.map Prod.snd)

/-- Writes the snapshot file, if there is to be one. -/
def persist (reg : SchemaRegistry) (now : Timestamp) : SchemaRegistry :=
  if reg.persists then { reg with file := some (reg.snapshot now).toText } else reg

/-- Knows the tables of the snapshot file, and answers how many it lists. -/
def loadSnapshot (reg : SchemaRegistry) : Except Error (Nat × SchemaRegistry) :=
  if reg.persists then
    (SchemaSnapshot.load reg.file).map fun
      | some s => (s.tables.length, s.tables.foldl register reg)
      | none => (0, reg)
  else .ok (0, reg)

/-! ## With a source -/

variable {σ α : Type}

/-- Loads a table. A table that the source does not have is forgotten. -/
def refresh (source : SchemaSource σ) (table : String) : Action (σ × SchemaRegistry) Table :=
  Action.ofRun fun (s, reg) =>
    match (source.loadTable table).runFrom s with
    | (.error e, s) => (.error e, (s, reg))
    | (.ok none, s) => (.error (.tableNotFound table), (s, reg.invalidate table))
    | (.ok (some t), s) => (.ok t, (s, (reg.insert table t).persist (source.now s)))

/-- The known table, or else the loaded one. -/
def get (source : SchemaSource σ) (table : String) : Action (σ × SchemaRegistry) Table := do
  match ← Action.ofRun fun (s, reg) => (.ok (reg.cached table), (s, reg)) with
  | some t => return t
  | none => refresh source table

/-- The expected columns that a table does not have. -/
def missingColumns (source : SchemaSource σ) (table : String) (expected : List String) :
    Action (σ × SchemaRegistry) (List MissingColumn) := do
  let t ← get source table
  return (expected.filter fun c => !t.hasColumn c).map fun c => ⟨table, c⟩

/-- Runs an action, and once more after a refresh if the known table seems out of date. -/
def withRetry (source : SchemaSource σ) (table : String) (action : Action (σ × SchemaRegistry) α) :
    Action (σ × SchemaRegistry) α := do
  match ← action.attempt with
  | .ok a => return a
  | .error e =>
    if e.isSchemaMismatch then
      let _ ← refresh source table
      action
    else throw e

end SchemaRegistry

end QueryKit
