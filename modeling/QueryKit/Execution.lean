import QueryKit.Builder.Scope
import QueryKit.Cache
import QueryKit.Driver.Basic
import QueryKit.Row.Reading
import QueryKit.Sql.Aggregate
import QueryKit.Sql.Mutation
set_option autoImplicit false

/-! # Running builders

A builder is compiled for its dialect and sent through a driver. What cannot be compiled fails before
anything is sent. -/

namespace QueryKit.Builder

variable {σ : Type}

/-! ## Reads -/

/-- The result of the read. -/
def fetch (driver : Driver σ) (b : Builder) : Action σ QueryResult := do
  let statement ← Action.ofExcept b.toSql
  driver.query statement

/-- The rows of the read. -/
def get (driver : Driver σ) (b : Builder) : Action σ (List Row) := do
  let result ← b.fetch driver
  return result.rows

/-- The rows of the read, each of them read as a native value. -/
def getAs {α : Type} (driver : Driver σ) (read : Row → Except Error α) (b : Builder) :
    Action σ (List α) := do
  let rows ← b.get driver
  Action.ofExcept (rows.mapM read)

/-- The rows of the read, from the cache if it has them. Otherwise they are read, and kept for a
    duration. -/
def getCached (driver : Driver σ) (now duration : Nat) (b : Builder) :
    Action (σ × Cache QueryResult) (List Row) := do
  let statement ← Action.ofExcept b.toSql
  let key := cacheKey statement
  let hit ← Action.ofRun fun (s, cache) =>
    let (hit, cache) := cache.get now key
    (.ok hit, (s, cache))
  match hit with
  | some result => return result.rows
  | none =>
    let result ← (driver.query statement).onFirst
    Action.ofRun fun (s, cache) => (.ok (), (s, cache.set now key result duration))
    return result.rows

/-- The first row, if there is one. -/
def first (driver : Driver σ) (b : Builder) : Action σ (Option Row) := do
  let rows ← (b.limit 1).get driver
  return rows.head?

/-- The first row; it is an error if there is none. -/
def firstOrFail (driver : Driver σ) (b : Builder) : Action σ Row := do
  match ← b.first driver with
  | some row => return row
  | none => throw (.notFound ("no matching row in " ++ b.draft.table))

/-- The first row whose primary key has a value. -/
def find (driver : Driver σ) (b : Builder) (id : Value) : Action σ (Option Row) :=
  (b.whereEq b.draft.primaryKey id).first driver

/-- Whether there are rows. -/
def hasRows (driver : Driver σ) (b : Builder) : Action σ Bool := do
  let q ← Action.ofExcept b.toQuery
  let result ← driver.query (Sql.compileExists b.dialect q)
  let answer := result.rows.head?.bind fun row => (row.get? Sql.existsColumn).bind Value.bool?
  return answer.getD false

/-- The value of an aggregate; null if the store answers none. -/
def aggregate (driver : Driver σ) (b : Builder) (function : Aggregate) (column : String) :
    Action σ Value := do
  let q ← Action.ofExcept b.toQuery
  let result ← driver.query (Sql.compileAggregate b.dialect q function column)
  return (result.rows.head?.bind (·.get? Sql.aggregateColumn)).getD .null

/-- The number of rows. -/
def count (driver : Driver σ) (b : Builder) : Action σ Int64 := do
  let v ← b.aggregate driver .count "*"
  return v.int64?.getD 0

/-- The sum of a column, which is zero over no rows. -/
def sumOf (driver : Driver σ) (b : Builder) (column : String) : Action σ Binary64 := do
  let v ← b.aggregate driver .sum column
  return v.binary?.getD Binary64.zero

/-- The mean of a column. -/
def averageOf (driver : Driver σ) (b : Builder) (column : String) :
    Action σ (Option Binary64) := do
  let v ← b.aggregate driver .avg column
  return v.binary?

/-- The value of an aggregate that is null over no rows. -/
def extremeOf (driver : Driver σ) (b : Builder) (function : Aggregate) (column : String) :
    Action σ (Option Value) := do
  let v ← b.aggregate driver function column
  return if v.isNull then none else some v

/-- The least value of a column. -/
def leastOf (driver : Driver σ) (b : Builder) (column : String) : Action σ (Option Value) :=
  b.extremeOf driver .min column

/-- The greatest value of a column. -/
def greatestOf (driver : Driver σ) (b : Builder) (column : String) : Action σ (Option Value) :=
  b.extremeOf driver .max column

/-! ## Writes -/

/-- Sends a write and answers the number of rows it changed. -/
def send (driver : Driver σ) (statement : Except Error Statement) : Action σ UInt64 := do
  let s ← Action.ofExcept statement
  let result ← driver.execute s
  return result.affectedRows

/-- Inserts rows in one statement. Nothing is sent for no rows. -/
def insertMany (driver : Driver σ) (b : Builder) (rows : List Row) : Action σ UInt64 :=
  if rows.isEmpty then return 0
  else send driver (b.toQuery.bind fun q => Sql.compileInsert b.dialect q rows)

/-- Inserts one row. -/
def insert (driver : Driver σ) (b : Builder) (row : Row) : Action σ UInt64 :=
  b.insertMany driver [row]

/-- Inserts one row and answers the key that was generated for it. -/
def insertReturning (driver : Driver σ) (b : Builder) (row : Row) : Action σ Value := do
  let q ← Action.ofExcept b.toQuery
  let statement ← Action.ofExcept (Sql.compileInsertReturning b.dialect q row)
  if b.dialect.supportsReturning then
    let result ← driver.query statement
    match result.rows.head?.bind (·.get? q.primaryKey) with
    | some key => return key
    | none => throw (.query ("insert into " ++ q.table ++ " returned no key"))
  else
    let result ← driver.execute statement
    match result.insertId with
    | some key => return key
    | none => throw (.query ("insert into " ++ q.table ++ " reported no id"))

/-- Inserts rows, and resolves conflicts with rows that exist. Nothing is sent for no rows. -/
def upsert (driver : Driver σ) (b : Builder) (rows : List Row) (u : Sql.Upsert) :
    Action σ UInt64 :=
  if rows.isEmpty then return 0
  else send driver (b.toQuery.bind fun q => Sql.compileUpsert b.dialect q rows u)

/-- Sets columns of the rows that the builder describes. -/
def update (driver : Driver σ) (b : Builder) (values : Row) : Action σ UInt64 :=
  send driver (b.toQuery.bind fun q => Sql.compileUpdate b.dialect q values.entries)

/-- The delete of a query, which must have conditions. -/
def guardedDelete (d : Dialect) (q : Query) : Except Error Statement :=
  if q.wheres.isEmpty then .error (.validation (.deleteWithoutConditions q.table))
  else Sql.compileDelete d q

/-- Deletes the rows that the builder describes. It is an error if it has no conditions. -/
def delete (driver : Driver σ) (b : Builder) : Action σ UInt64 :=
  send driver (b.toQuery.bind (guardedDelete b.dialect))

/-- Deletes all rows of the table. -/
def truncate (driver : Driver σ) (b : Builder) : Action σ Unit := do
  let _ ← send driver (b.toQuery.map (Sql.compileTruncate b.dialect))
  return ()

end QueryKit.Builder
