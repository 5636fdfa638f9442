import QueryKit.Sql.Select
set_option autoImplicit false

/-! # Aggregates

An aggregate over a query whose rows are grouped, distinct or cut to a window is taken over the query
as a derived table; over any other query it is taken directly. -/

namespace QueryKit.Sql

/-- The name of the column that holds the aggregate. -/
def aggregateColumn : String := "aggregate"

/-- The name of the column that says whether there are rows. -/
def existsColumn : String := "exists"

/-- The rows of the query are not plainly those of its table. -/
def isDerived (q : Query) : Bool :=
  !q.groups.isEmpty || q.distinct || q.isPaginated

/-- The query as a derived table: without lock, and with its groups as columns if it selects all. -/
def derived (q : Query) : Query :=
  { q with
    lock := none
    columns :=
      if !q.groups.isEmpty && q.columns.all SelectColumn.isStar then q.groups.map .column
      else q.columns }

/-- An aggregate. -/
def Emitter.aggregate (e : Emitter) (q : Query) (function : Aggregate) (column : String) :
    Emit String :=
  let label := e.dialect.identifier aggregateColumn
  if isDerived q then do
    let sql ← e.select (derived q)
    let target := if column == "*" then "*" else e.dialect.identifier (unqualified column)
    return "SELECT " ++ function.word ++ "(" ++ target ++ ") AS " ++ label ++ " FROM (" ++ sql
      ++ ") AS " ++ e.dialect.identifier "__agg"
  else do
    let wheres ← e.wheres q.wheres
    return "SELECT " ++ function.word ++ "(" ++ e.dialect.column column ++ ") AS " ++ label
      ++ " FROM " ++ e.dialect.table q.table ++ joinsText e.dialect q.joins
      ++ headed " WHERE " wheres

/-- The statement of an aggregate. -/
def compileAggregate (d : Dialect) (q : Query) (function : Aggregate) (column : String) :
    Statement :=
  (Emitter.aggregate { dialect := d } q function column).statement

/-- A test for rows. -/
def Emitter.anyRow (e : Emitter) (q : Query) : Emit String := do
  let sql ← e.select q
  return "SELECT EXISTS(" ++ sql ++ ") AS " ++ e.dialect.identifier existsColumn

/-- The statement of a test for rows. -/
def compileExists (d : Dialect) (q : Query) : Statement :=
  (Emitter.anyRow { dialect := d } q).statement

end QueryKit.Sql
