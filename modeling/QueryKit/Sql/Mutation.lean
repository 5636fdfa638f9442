import QueryKit.Sql.Select
import QueryKit.Row.Basic
import QueryKit.Error
set_option autoImplicit false

/-! # Writes

Inserts, inserts that resolve conflicts, updates, deletes and truncations. What a dialect cannot
express is refused. -/

namespace QueryKit.Sql

/-! ## Inserts -/

/-- The index of the first row, from the second on, whose columns differ from those of the first. -/
def firstDifferent? (columns : List String) (rows : List Row) : Option Nat :=
  (rows.findIdx? fun row => row.columns != columns).map (· + 1)

/-- The words of a plain insert. -/
def insertVerb : String := "INSERT INTO"

/-- The values of a row between parentheses. -/
def Emitter.row (e : Emitter) (row : Row) : Emit String := do
  let placeholders ← row.values.mapM e.bind
  return "(" ++ String.intercalate ", " placeholders ++ ")"

/-- Rows one after another. -/
def Emitter.rows (e : Emitter) (rows : List Row) : Emit String :=
  return String.intercalate ", " (← rows.mapM e.row)

/-- An insert whose first words are `verb`. All rows have the columns of the first one; a row without
    columns can only be inserted alone. -/
def Emitter.insert (e : Emitter) (verb : String) (q : Query) : List Row → ExceptT Error Emit String
  | [] => throw (.validation .insertWithoutRows)
  | first :: rest =>
    let head := verb ++ " " ++ e.dialect.table q.table ++ " "
    if first.isEmpty then
      if rest.isEmpty then return head ++ e.dialect.defaultRow
      else throw (.validation .insertWithoutColumns)
    else
      match firstDifferent? first.columns rest with
      | some row => throw (.validation (.insertColumnsDiffer row))
      | none => do
        let columns := String.intercalate ", " (first.columns.map e.dialect.identifier)
        let rows ← e.rows (first :: rest)
        return head ++ "(" ++ columns ++ ") VALUES " ++ rows

/-- The statement of an insert. -/
def compileInsert (d : Dialect) (q : Query) (rows : List Row) : Except Error Statement :=
  Emit.statement? (Emitter.insert { dialect := d } insertVerb q rows)

/-- The suffix that returns the generated key, where the dialect has one. -/
def returningText (d : Dialect) (q : Query) : String :=
  if d.supportsReturning then " RETURNING " ++ d.column q.primaryKey else ""

/-- An insert of one row that returns the generated key. Where the dialect cannot return it, the insert
    is a plain one. -/
def Emitter.insertReturning (e : Emitter) (q : Query) (row : Row) : ExceptT Error Emit String := do
  let sql ← e.insert insertVerb q [row]
  return sql ++ returningText e.dialect q

/-- The statement of an insert of one row that returns the generated key. -/
def compileInsertReturning (d : Dialect) (q : Query) (row : Row) : Except Error Statement :=
  Emit.statement? (Emitter.insertReturning { dialect := d } q row)

/-! ## Conflicts -/

/-- What an insert does about rows that exist already. -/
structure Upsert where
  /-- The columns whose values must be unique. -/
  uniqueBy : List String
  /-- The columns to overwrite; if there are none, the row that exists stays as it is. -/
  update : List String

/-- How an insert resolves conflicts: the words it begins with, and the suffix. -/
structure ConflictClause where
  verb : String := insertVerb
  suffix : String := ""

/-- Assignments of the new values, which `source` refers to, to the columns. -/
def overwrites (d : Dialect) (source : String → String) (columns : List String) : String :=
  String.intercalate ", "
    (columns.map fun c => d.identifier c ++ " = " ++ source (d.identifier c))

/-- The spelling of a conflict resolution. -/
def conflictClause (d : Dialect) (u : Upsert) : Except Error ConflictClause :=
  match d with
  | .sqlite => .error (.unsupportedConstruct d.name .upsert)
  | .mysql =>
    if u.update.isEmpty then .ok { verb := "INSERT IGNORE INTO" }
    else
      .ok
        { suffix :=
            " ON DUPLICATE KEY UPDATE " ++ overwrites d (fun c => "VALUES(" ++ c ++ ")") u.update }
  | .postgres =>
    let target :=
      if u.uniqueBy.isEmpty then ""
      else " (" ++ String.intercalate ", " (u.uniqueBy.map d.identifier) ++ ")"
    if u.update.isEmpty then .ok { suffix := " ON CONFLICT" ++ target ++ " DO NOTHING" }
    else if u.uniqueBy.isEmpty then .error (.validation .conflictWithoutTarget)
    else
      .ok
        { suffix :=
            " ON CONFLICT" ++ target ++ " DO UPDATE SET " ++
              overwrites d (fun c => "EXCLUDED." ++ c) u.update }

/-- An insert that resolves conflicts. -/
def Emitter.upsert (e : Emitter) (q : Query) (rows : List Row) (u : Upsert) :
    ExceptT Error Emit String := do
  let conflict ← liftExcept (conflictClause e.dialect u)
  let sql ← e.insert conflict.verb q rows
  return sql ++ conflict.suffix

/-- The statement of an insert that resolves conflicts. -/
def compileUpsert (d : Dialect) (q : Query) (rows : List Row) (u : Upsert) :
    Except Error Statement :=
  Emit.statement? (Emitter.upsert { dialect := d } q rows u)

/-! ## Updates and deletes -/

/-- The suffix that limits the rows written, where the dialect has one. -/
def mutationLimit (d : Dialect) (q : Query) : Except Error String :=
  match q.limit with
  | none => .ok ""
  | some l =>
    match d with
    | .mysql => .ok (" LIMIT " ++ toString l.toNat)
    | _ => .error (.validation (.limitInMutation d))

/-- Refuses joins in the statement that `verb` names. -/
def withoutJoins (d : Dialect) (q : Query) (verb : String) : Except Error Unit :=
  if q.joins.isEmpty then .ok () else .error (.validation (.joinInMutation d verb))

/-- An assignment of a value to a column. -/
def Emitter.assignment (e : Emitter) (column : String) (v : Value) : Emit String := do
  let placeholder ← e.bind v
  return e.dialect.identifier (unqualified column) ++ " = " ++ placeholder

/-- Assignments one after another. -/
def Emitter.assignments (e : Emitter) (values : List (String × Value)) : Emit String :=
  return String.intercalate ", " (← values.mapM fun (c, v) => e.assignment c v)

/-- An update. The new values are bound before those of the conditions. -/
def Emitter.update (e : Emitter) (q : Query) (values : List (String × Value)) :
    ExceptT Error Emit String := do
  if values.isEmpty then throw (.validation .updateWithoutColumns)
  liftExcept (withoutJoins e.dialect q "UPDATE")
  let assignments ← e.assignments values
  let wheres ← e.wheres q.wheres
  let limit ← liftExcept (mutationLimit e.dialect q)
  return "UPDATE " ++ e.dialect.table q.table ++ " SET " ++ assignments
    ++ headed " WHERE " wheres ++ limit

/-- The statement of an update. -/
def compileUpdate (d : Dialect) (q : Query) (values : List (String × Value)) :
    Except Error Statement :=
  Emit.statement? (Emitter.update { dialect := d } q values)

/-- A delete. -/
def Emitter.delete (e : Emitter) (q : Query) : ExceptT Error Emit String := do
  liftExcept (withoutJoins e.dialect q "DELETE")
  let wheres ← e.wheres q.wheres
  let limit ← liftExcept (mutationLimit e.dialect q)
  return "DELETE FROM " ++ e.dialect.table q.table ++ headed " WHERE " wheres ++ limit

/-- The statement of a delete. -/
def compileDelete (d : Dialect) (q : Query) : Except Error Statement :=
  Emit.statement? (Emitter.delete { dialect := d } q)

/-- The statement that clears a table. -/
def compileTruncate (d : Dialect) (q : Query) : Statement :=
  match d with
  | .sqlite => ⟨"DELETE FROM " ++ d.table q.table, []⟩
  | _ => ⟨"TRUNCATE TABLE " ++ d.table q.table, []⟩

end QueryKit.Sql
