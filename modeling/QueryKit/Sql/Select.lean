import QueryKit.Sql.Condition
set_option autoImplicit false

/-! # Reads

The parts of a read come in one order whatever the dialect: columns, table and joins, conditions,
groups, group conditions, orders, window, lock. -/

namespace QueryKit.Sql

/-- One join, with a blank in front of it. -/
def joinText (d : Dialect) (j : Join) : String :=
  " " ++ j.kind.words ++ " " ++ d.table j.table ++
    (match j.condition with
      | none => ""
      | some on =>
        " ON " ++ d.column on.first ++ " " ++ d.operator on.operator ++ " " ++ d.column on.second)

/-- All joins. -/
def joinsText (d : Dialect) (joins : List Join) : String :=
  String.join (joins.map (joinText d))

/-- The groups with their words, if there are any. -/
def groupsText (d : Dialect) : List String → String
  | [] => ""
  | groups => " GROUP BY " ++ String.intercalate ", " (groups.map d.column)

/-- The suffix for the lock of a query. -/
def lockText (d : Dialect) : Option Lock → String
  | none => ""
  | some lock => d.lockSuffix lock

namespace Emitter

/-- One select entry. -/
def column (e : Emitter) : SelectColumn → Emit String
  | .column name => return e.dialect.column name
  | .raw sql values => e.substitute sql values

/-- One order key. -/
def order (e : Emitter) : Order → Emit String
  | .column name direction => return e.dialect.column name ++ " " ++ direction.word
  | .raw sql values => e.substitute sql values

/-- The orders with their words, if there are any. -/
def orders (e : Emitter) : List Order → Emit String
  | [] => return ""
  | orders => return " ORDER BY " ++ String.intercalate ", " (← orders.mapM e.order)

/-- A read. -/
def select (e : Emitter) (q : Query) : Emit String := do
  let columns ← q.columns.mapM e.column
  let wheres ← e.wheres q.wheres
  let havings ← e.havings q.havings
  let orders ← e.orders q.orders
  return (if q.distinct then "SELECT DISTINCT " else "SELECT ")
    ++ String.intercalate ", " columns
    ++ " FROM " ++ e.dialect.table q.table ++ joinsText e.dialect q.joins
    ++ headed " WHERE " wheres
    ++ groupsText e.dialect q.groups
    ++ headed " HAVING " havings
    ++ orders
    ++ e.dialect.limitSuffix q.limit q.offset ++ lockText e.dialect q.lock

end Emitter

/-- The statement of a read. -/
def compileSelect (d : Dialect) (q : Query) : Statement :=
  (Emitter.select { dialect := d } q).statement

/-- The text of a read with literals for its values. It is for reading, never for sending. -/
def inlineSelect (d : Dialect) (q : Query) : String :=
  (Emitter.select { dialect := d, mode := .literal } q).statement.sql

end QueryKit.Sql
