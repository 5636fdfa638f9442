import QueryKit.Sql.Condition
import QueryKit.Error
set_option autoImplicit false

/-! # Builders

A builder collects the clauses of a query one call at a time. A call that is invalid adds nothing and
leaves a fault behind; the first fault is the one that is reported, whatever calls follow.

The draft of a builder is what has been collected. Beside it stand the scopes: named changes of the
draft that are made once, when the query is taken. -/

namespace QueryKit

/-- The clauses collected so far. -/
structure Draft extends Query where
  dialect : Dialect
  /-- The values collected so far, by the part that introduced them. -/
  buckets : Buckets := {}
  /-- The names of the scopes that are not to be applied. -/
  removedScopes : List String := []
  /-- The scopes have been applied, or are being applied. -/
  scopesApplied : Bool := false
  /-- The names of scopes that were registered while scopes were being applied. They are never
      applied. -/
  lateScopes : List String := []
  /-- The first fault. -/
  fault : Option Fault := none

/-- A change of a draft. -/
abbrev Scope := Draft → Draft

/-- A draft with the scopes that are still to be applied to it, in the order of registration. -/
structure Builder where
  draft : Draft
  scopes : List (String × Scope) := []

namespace Draft

/-- Notes a fault, unless there is one already. -/
def fail (d : Draft) (fault : Fault) : Draft :=
  { d with fault := some (d.fault.getD fault) }

/-- Some condition is joined by OR. -/
def hasOr (d : Draft) : Bool :=
  d.wheres.any fun w => w.connective == .or

/-- Adds a condition and its values. -/
def addWhere (d : Draft) (w : Where) : Draft :=
  { d with
    wheres := d.wheres ++ [w]
    buckets := { d.buckets with wheres := d.buckets.wheres ++ w.values } }

/-- Adds a select entry and its values. -/
def addColumn (d : Draft) (c : SelectColumn) : Draft :=
  { d with
    columns := d.columns ++ [c]
    buckets := { d.buckets with select := d.buckets.select ++ c.values } }

/-- Adds a group condition and its values. -/
def addHaving (d : Draft) (h : Having) : Draft :=
  { d with
    havings := d.havings ++ [h]
    buckets := { d.buckets with having := d.buckets.having ++ h.values } }

/-- Adds an order key and its values. -/
def addOrder (d : Draft) (o : Order) : Draft :=
  { d with
    orders := d.orders ++ [o]
    buckets := { d.buckets with order := d.buckets.order ++ o.values } }

/-- Takes the star out of the select list if it is the only entry. -/
def dropStar (d : Draft) : Draft :=
  match d.columns with
  | [c] => if c.isStar then { d with columns := [] } else d
  | _ => d

/-- The primary key as an order key. Behind joins it is qualified. -/
def keyOrder (d : Draft) : Order :=
  .column
    (if d.joins.isEmpty then d.primaryKey else Sql.tableReference d.table ++ "." ++ d.primaryKey)
    .ascending

/-- Orders by the primary key last, unless some order key mentions it. -/
def ensureKeyOrder (d : Draft) : Draft :=
  if d.ordersReference d.primaryKey then d else { d with orders := d.orders ++ [d.keyOrder] }

end Draft

/-! ## Checks -/

/-- The fault of an identifier: it is blank, or it could end or cut off a statement. -/
def identifierFault? (name : String) : Option Fault :=
  if Text.isBlankText name || Text.occurs ";" name || Text.occurs "--" name then
    some (.identifier name)
  else none

/-- The fault of SQL text whose markers are not as many as its values. -/
def markerFault? (sql : String) (values : List Value) : Option Fault :=
  let markers := Sql.countMarkers sql
  if markers = values.length then none else some (.markerCount markers values.length sql)

namespace Draft

/-- Makes a change unless there is a fault. -/
def guarded (d : Draft) (fault : Option Fault) (change : Draft → Draft) : Draft :=
  match fault with
  | some f => d.fail f
  | none => change d

/-- Makes a change with an operator from the list. -/
def withOperator (d : Draft) (op : String) (change : String → Draft → Draft) : Draft :=
  match operator? op with
  | some listed => change listed d
  | none => d.fail (.operator op)

end Draft

namespace Builder

/-- A builder for a table in a dialect, which reads all columns of all rows. -/
def new (dialect : Dialect) (table : String) : Builder :=
  { draft := { dialect, table } }

/-- Changes the draft. -/
def modify (b : Builder) (change : Draft → Draft) : Builder :=
  { b with draft := change b.draft }

/-- The dialect of the statements made from the builder. -/
def dialect (b : Builder) : Dialect := b.draft.dialect

/-- Keeps a window of the rows only. -/
def isPaginated (b : Builder) : Bool := b.draft.isPaginated

end Builder

end QueryKit
