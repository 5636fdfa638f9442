import QueryKit.Builder.Basic
import QueryKit.Builder.Page
set_option autoImplicit false

/-! # Clauses of a builder

The calls that add clauses. Operators must be on the list, identifiers must not be blank or hold a
semicolon or a comment mark, and raw SQL must have a marker for each of its values. -/

namespace QueryKit.Builder

/-! ## Key and columns -/

/-- Names the column of the primary key. -/
def primaryKey (b : Builder) (column : String) : Builder :=
  b.modify fun d => { d with primaryKey := column }

/-- Adds a column to a select list, or to the groups, if its name is valid. -/
def addNamed (add : String → Draft → Draft) (d : Draft) (column : String) : Draft :=
  d.guarded (identifierFault? column) (add column)

/-- Selects these columns in place of those selected so far; all columns if none is left. -/
def select (b : Builder) (columns : List String) : Builder :=
  b.modify fun d =>
    let cleared := { d with columns := [], buckets := { d.buckets with select := [] } }
    let selected := columns.foldl (addNamed fun c d => d.addColumn (.column c)) cleared
    if selected.columns.isEmpty then selected.addColumn .star else selected

/-- Selects one column more, in place of all columns. -/
def addSelect (b : Builder) (column : String) : Builder :=
  b.modify fun d => addNamed (fun c d => d.dropStar.addColumn (.column c)) d column

/-- Selects an expression more, in place of all columns. -/
def selectRaw (b : Builder) (sql : String) (values : List Value) : Builder :=
  b.modify fun d => d.guarded (markerFault? sql values) fun d => d.dropStar.addColumn (.raw sql values)

/-- Leaves out rows that are equal to others. -/
def distinct (b : Builder) : Builder :=
  b.modify fun d => { d with distinct := true }

/-! ## Conditions -/

/-- A test for null. -/
def isNull (b : Builder) (c : Connective) (column : String) (negated : Bool) : Builder :=
  b.modify fun d => d.guarded (identifierFault? column) (·.addWhere ⟨c, .isNull column negated⟩)

/-- The condition for a comparison with a listed operator. Null is equal to nothing, so comparing
    with it for equality is a test for null. -/
def comparison (column op : String) (value : Value) : Condition :=
  if value.isNull && op == "=" then .isNull column false
  else if value.isNull && (op == "!=" || op == "<>") then .isNull column true
  else .compare column op value

/-- A comparison of a column with a value. -/
def compare (b : Builder) (c : Connective) (column op : String) (value : Value) : Builder :=
  b.modify fun d => d.withOperator op fun op d =>
    d.guarded (identifierFault? column) (·.addWhere ⟨c, comparison column op value⟩)

/-- A test for equality with a value. -/
def whereEq (b : Builder) (column : String) (value : Value) : Builder :=
  b.compare .and column "=" value

/-- A test for equality with a value, as an alternative. -/
def orWhereEq (b : Builder) (column : String) (value : Value) : Builder :=
  b.compare .or column "=" value

/-- Tests for equality of several columns. -/
def whereAll (b : Builder) (pairs : List (String × Value)) : Builder :=
  pairs.foldl (fun b (column, value) => b.whereEq column value) b

/-- A test for being one of a list of values. An empty list is written as it is. -/
def oneOf (b : Builder) (c : Connective) (column : String) (values : List Value) (negated : Bool) :
    Builder :=
  b.modify fun d =>
    d.guarded (identifierFault? column) (·.addWhere ⟨c, .oneOf column values negated⟩)

/-- A test for being one of a list of values. -/
def whereIn (b : Builder) (column : String) (values : List Value) : Builder :=
  b.oneOf .and column values false

/-- A test for lying between two values, both included. -/
def between (b : Builder) (c : Connective) (column : String) (low high : Value) (negated : Bool) :
    Builder :=
  b.modify fun d =>
    d.guarded (identifierFault? column) (·.addWhere ⟨c, .between column low high negated⟩)

/-- A condition in SQL. -/
def whereRaw (b : Builder) (c : Connective) (sql : String) (values : List Value) : Builder :=
  b.modify fun d => d.guarded (markerFault? sql values) (·.addWhere ⟨c, .raw sql values⟩)

/-- A comparison of two columns. -/
def compareColumns (b : Builder) (c : Connective) (left op right : String) : Builder :=
  b.modify fun d => d.withOperator op fun op d =>
    d.guarded (identifierFault? left) fun d =>
      d.guarded (identifierFault? right) (·.addWhere ⟨c, .compareColumns left op right⟩)

/-- Adds the conditions of a draft as one condition. A draft without conditions adds nothing, and the
    fault of a draft is passed on. -/
def addGroup (c : Connective) (child : Draft) (d : Draft) : Draft :=
  match child.fault with
  | some f => d.fail f
  | none =>
    if child.wheres.isEmpty then d else d.addWhere ⟨c, Sql.group d.dialect child.wheres⟩

/-- The conditions that `body` makes on a fresh builder, as one condition. -/
def whereGroup (b : Builder) (c : Connective) (body : Builder → Builder) : Builder :=
  b.modify fun d => addGroup c (body (new d.dialect d.table)).draft d

/-! ## Joins -/

/-- A join under a comparison of two columns. -/
def join (b : Builder) (kind : JoinKind) (table first op second : String) : Builder :=
  b.modify fun d => d.guarded (identifierFault? table) fun d =>
    d.withOperator op fun op d =>
      d.guarded (identifierFault? first) fun d =>
        d.guarded (identifierFault? second) fun d =>
          { d with joins := d.joins ++ [⟨kind, table, some ⟨first, op, second⟩⟩] }

/-- A join of all pairs of rows. -/
def crossJoin (b : Builder) (table : String) : Builder :=
  b.modify fun d => d.guarded (identifierFault? table) fun d =>
    { d with joins := d.joins ++ [⟨.cross, table, none⟩] }

/-! ## Groups -/

/-- Groups the rows by columns. -/
def groupBy (b : Builder) (columns : List String) : Builder :=
  b.modify fun d =>
    columns.foldl (addNamed fun c d => { d with groups := d.groups ++ [c] }) d

/-- A condition on groups: a comparison with a value. -/
def having (b : Builder) (c : Connective) (column op : String) (value : Value) : Builder :=
  b.modify fun d => d.withOperator op fun op d =>
    d.guarded (identifierFault? column) (·.addHaving ⟨c, .compare column op value⟩)

/-- A condition on groups in SQL. -/
def havingRaw (b : Builder) (sql : String) (values : List Value) : Builder :=
  b.modify fun d => d.guarded (markerFault? sql values) (·.addHaving ⟨.and, .raw sql values⟩)

/-! ## Orders and windows -/

/-- Orders by a column, after the order keys so far. -/
def orderBy (b : Builder) (column : String) (direction : Direction) : Builder :=
  b.modify fun d => d.guarded (identifierFault? column) (·.addOrder (.column column direction))

/-- Orders by an expression, after the order keys so far. -/
def orderByRaw (b : Builder) (sql : String) (values : List Value) : Builder :=
  b.modify fun d => d.guarded (markerFault? sql values) (·.addOrder (.raw sql values))

/-- Keeps the first rows only. -/
def limit (b : Builder) (count : UInt64) : Builder :=
  b.modify fun d => { d with limit := some count }

/-- Leaves out the first rows. -/
def offset (b : Builder) (count : UInt64) : Builder :=
  b.modify fun d => { d with offset := some count }

/-- Keeps the rows of one page, in an order that the primary key decides last. -/
def paginate (b : Builder) (page : Page) : Builder :=
  b.modify fun d =>
    { d with limit := some page.size, offset := some page.offset }.ensureKeyOrder

/-- Locks the rows read. -/
def lock (b : Builder) (kind : Lock) : Builder :=
  b.modify fun d => { d with lock := some kind }

end QueryKit.Builder
