import QueryKit.Sql.Emitter
import QueryKit.Sql.Identifier
import QueryKit.Query.Basic
set_option autoImplicit false

/-! # Conditions

The list of conditions of a query, without the word in front of it. A connective stands before every
condition but the first. -/

namespace QueryKit.Sql

/-- Parts with the connectives between them; the first connective does not count. -/
def Emit.connected : List (Connective × Emit String) → Emit String
  | [] => return ""
  | (_, first) :: rest => do
    let sql ← first
    let others ← rest.mapM fun (c, part) => return " " ++ c.word ++ " " ++ (← part)
    return sql ++ String.join others

namespace Emitter

/-- A comparison of a column with a value. -/
def comparison (e : Emitter) (column op : String) (v : Value) : Emit String := do
  let placeholder ← e.bind v
  return e.dialect.column column ++ " " ++ e.dialect.operator op ++ " " ++ placeholder

/-- One condition. -/
def condition (e : Emitter) : Condition → Emit String
  | .compare column op v => e.comparison column op v
  | .oneOf column values negated => do
    let placeholders ← values.mapM e.bind
    return e.dialect.column column ++ (if negated then " NOT IN (" else " IN (")
      ++ String.intercalate ", " placeholders ++ ")"
  | .isNull column negated =>
    return e.dialect.column column ++ (if negated then " IS NOT NULL" else " IS NULL")
  | .between column low high negated => do
    let low ← e.bind low
    let high ← e.bind high
    return e.dialect.column column ++ (if negated then " NOT BETWEEN " else " BETWEEN ")
      ++ low ++ " AND " ++ high
  | .raw sql values => e.substitute sql values
  | .nested fragment values => return "(" ++ (← e.substitute fragment values) ++ ")"
  | .compareColumns left op right =>
    return e.dialect.column left ++ " " ++ e.dialect.operator op ++ " " ++ e.dialect.column right

/-- One group condition. -/
def groupCondition (e : Emitter) : GroupCondition → Emit String
  | .compare column op v => e.comparison column op v
  | .raw sql values => e.substitute sql values

/-- A list of conditions. -/
def wheres (e : Emitter) (wheres : List Where) : Emit String :=
  .connected (wheres.map fun w => (w.connective, e.condition w.condition))

/-- A list of group conditions. -/
def havings (e : Emitter) (havings : List Having) : Emit String :=
  .connected (havings.map fun h => (h.connective, e.groupCondition h.condition))

end Emitter

/-- The text of a list of conditions with neutral markers, and its values. -/
def fragment (d : Dialect) (wheres : List Where) : Statement :=
  (Emitter.wheres { dialect := d, mode := .marker } wheres).statement

/-- A list of conditions as a single condition. -/
def group (d : Dialect) (wheres : List Where) : Condition :=
  let f := fragment d wheres
  .nested f.sql f.bindings

/-- The text of a list of conditions after `offset` placeholders, and its values. -/
def compileWheres (d : Dialect) (offset : Nat) (wheres : List Where) : Statement :=
  (Emitter.wheres { dialect := d, offset } wheres).statement

/-- The text of a list of group conditions after `offset` placeholders, and its values. -/
def compileHavings (d : Dialect) (offset : Nat) (havings : List Having) : Statement :=
  (Emitter.havings { dialect := d, offset } havings).statement

end QueryKit.Sql
