import QueryKit.Builder.Scope
set_option autoImplicit false

/-! # Calls

The calls on a builder as data, so that statements can be made about every sequence of them. The body
of a group and of a scope is itself a sequence of calls. -/

namespace QueryKit

/-- A call on a builder. -/
inductive Call
  | primaryKey (column : String)
  | select (columns : List String)
  | addSelect (column : String)
  | selectRaw (sql : String) (values : List Value)
  | distinct
  | compare (c : Connective) (column op : String) (value : Value)
  | whereGroup (c : Connective) (body : List Call)
  | oneOf (c : Connective) (column : String) (values : List Value) (negated : Bool)
  | isNull (c : Connective) (column : String) (negated : Bool)
  | between (c : Connective) (column : String) (low high : Value) (negated : Bool)
  | whereRaw (c : Connective) (sql : String) (values : List Value)
  | compareColumns (c : Connective) (left op right : String)
  | join (kind : JoinKind) (table first op second : String)
  | crossJoin (table : String)
  | groupBy (columns : List String)
  | having (c : Connective) (column op : String) (value : Value)
  | havingRaw (sql : String) (values : List Value)
  | orderBy (column : String) (direction : Direction)
  | orderByRaw (sql : String) (values : List Value)
  | limit (count : UInt64)
  | offset (count : UInt64)
  | paginate (page : Page)
  | lock (kind : Lock)
  | scope (name : String) (body : List Call)
  | withoutScope (name : String)
  | withoutScopes

mutual

/-- Makes a call. -/
def Call.run (b : Builder) : Call → Builder
  | .primaryKey column => b.primaryKey column
  | .select columns => b.select columns
  | .addSelect column => b.addSelect column
  | .selectRaw sql values => b.selectRaw sql values
  | .distinct => b.distinct
  | .compare c column op value => b.compare c column op value
  | .whereGroup c body => b.whereGroup c fun child => runCalls child body
  | .oneOf c column values negated => b.oneOf c column values negated
  | .isNull c column negated => b.isNull c column negated
  | .between c column low high negated => b.between c column low high negated
  | .whereRaw c sql values => b.whereRaw c sql values
  | .compareColumns c left op right => b.compareColumns c left op right
  | .join kind table first op second => b.join kind table first op second
  | .crossJoin table => b.crossJoin table
  | .groupBy columns => b.groupBy columns
  | .having c column op value => b.having c column op value
  | .havingRaw sql values => b.havingRaw sql values
  | .orderBy column direction => b.orderBy column direction
  | .orderByRaw sql values => b.orderByRaw sql values
  | .limit count => b.limit count
  | .offset count => b.offset count
  | .paginate page => b.paginate page
  | .lock kind => b.lock kind
  | .scope name body => b.scope name (Scope.ofCalls fun inner => runCalls inner body)
  | .withoutScope name => b.withoutScope name
  | .withoutScopes => b.withoutScopes

/-- Makes calls one after another. -/
def runCalls (b : Builder) : List Call → Builder
  | [] => b
  | call :: rest => runCalls (call.run b) rest

end

end QueryKit
