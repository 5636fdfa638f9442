import QueryKit.Query.Clause
set_option autoImplicit false

/-! # Queries

A query is a snapshot of what a statement is meant to do: what it reads, under which conditions and
in which order. Statements for every dialect and commands for document stores are made from it. -/

namespace QueryKit

/-- The values of a query by the part that introduced them. -/
structure Buckets where
  select : List Value := []
  wheres : List Value := []
  having : List Value := []
  order : List Value := []

namespace Buckets

/-- All values, in the order in which the parts are written. -/
def all (b : Buckets) : List Value :=
  b.select ++ b.wheres ++ b.having ++ b.order

/-- The number of values. -/
def size (b : Buckets) : Nat :=
  b.select.length + b.wheres.length + b.having.length + b.order.length

/-- Has no values. -/
def isEmpty (b : Buckets) : Bool :=
  b.size == 0

end Buckets

/-- What a statement is meant to do. -/
structure Query where
  table : String
  primaryKey : String := "id"
  columns : List SelectColumn := [.star]
  distinct : Bool := false
  wheres : List Where := []
  joins : List Join := []
  groups : List String := []
  havings : List Having := []
  orders : List Order := []
  limit : Option UInt64 := none
  offset : Option UInt64 := none
  lock : Option Lock := none
  /-- All values of the query as a read, in the order in which they are written. -/
  bindings : List Value := []

namespace Query

/-- Keeps a window of its rows only. -/
def isPaginated (q : Query) : Bool :=
  q.limit.isSome || q.offset.isSome

/-- Some order key mentions a column. -/
def ordersReference (q : Query) (column : String) : Bool :=
  q.orders.any (·.references column)

end Query

end QueryKit
