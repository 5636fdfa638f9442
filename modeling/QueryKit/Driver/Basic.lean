import QueryKit.Error
import QueryKit.Row.Basic
import QueryKit.Sql.Emitter
set_option autoImplicit false

/-! # Drivers

A driver sends statements to a store. What it does is an action: it changes the state of the store,
also when it fails, and it ends in a result or an error. -/

namespace QueryKit

/-- A step that changes a state and ends in a result or an error. The state is kept either way. -/
abbrev Action (σ α : Type) := ExceptT Error (StateM σ) α

namespace Action

variable {σ τ α : Type}

/-- Runs an action from a state. -/
def runFrom (action : Action σ α) (s : σ) : Except Error α × σ :=
  action s

/-- The action that does this. -/
def ofRun (run : σ → Except Error α × σ) : Action σ α :=
  run

/-- The action that changes nothing and ends as given. -/
def ofExcept (result : Except Error α) : Action σ α :=
  ofRun fun s => (result, s)

/-- The action on the first part of a state. -/
def onFirst (action : Action σ α) : Action (σ × τ) α :=
  ofRun fun (s, t) =>
    let (result, s) := action.runFrom s
    (result, (s, t))

/-- Ends in what the action ends in, be it a result or an error. -/
def attempt (action : Action σ α) : Action σ (Except Error α) :=
  ofRun fun s =>
    let (result, s) := action.runFrom s
    (.ok result, s)

end Action

/-- The rows that a read answers. -/
structure QueryResult where
  rows : List Row
  rowCount : Nat
  /-- The column names in the order of the result. -/
  fields : List String

namespace QueryResult

/-- The result with these rows, whose columns are those of the first row. -/
def ofRows (rows : List Row) : QueryResult :=
  { rows
    rowCount := rows.length
    fields := match rows with
      | [] => []
      | first :: _ => first.columns }

/-- Has no rows. -/
def isEmpty (r : QueryResult) : Bool :=
  r.rows.isEmpty

end QueryResult

/-- The outcome of a write. -/
structure WriteResult where
  affectedRows : UInt64
  /-- The key that the store generated, where it reports one. -/
  insertId : Option Value

/-- What the library needs of a store of rows. -/
structure Driver (σ : Type) where
  dialect : Dialect
  /-- Sends a statement that answers rows. -/
  query : Statement → Action σ QueryResult
  /-- Sends a statement that answers the number of rows it changed. -/
  execute : Statement → Action σ WriteResult
  beginTransaction : Action σ Unit
  commit : Action σ Unit
  rollback : Action σ Unit
  inTransaction : σ → Bool

/-- The driver of a store that is the first part of a larger state. -/
def Driver.onFirst {σ τ : Type} (d : Driver σ) : Driver (σ × τ) where
  dialect := d.dialect
  query := fun s => (d.query s).onFirst
  execute := fun s => (d.execute s).onFirst
  beginTransaction := d.beginTransaction.onFirst
  commit := d.commit.onFirst
  rollback := d.rollback.onFirst
  inTransaction := fun s => d.inTransaction s.1

end QueryKit
