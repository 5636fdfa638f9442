import QueryKit.Value.Basic
import QueryKit.Text.CharClass
import QueryKit.Text.Blank
set_option autoImplicit false

/-! # Clauses

The parts of a query, independent of any dialect. A raw part holds SQL text with a `?` marker for
each of its values. -/

namespace QueryKit

/-! ## Operators -/

/-- How a condition combines with the conditions before it in its list. The first condition's own
    connective does not count. -/
inductive Connective
  | and
  | or
deriving DecidableEq, Repr

/-- The word for a connective. -/
def Connective.word : Connective → String
  | .and => "AND"
  | .or => "OR"

/-- The comparison operators that callers may use. -/
def operators : List String :=
  ["=", "!=", "<>", "<", ">", "<=", ">=", "LIKE", "NOT LIKE", "ILIKE", "NOT ILIKE"]

/-- The listed operator that a text names, whatever the case of its letters and the blanks around
    it. -/
def operator? (text : String) : Option String :=
  let upper := String.ofList ((Text.trim text.toList).map Char.toUpper)
  operators.find? (· == upper)

/-! ## Conditions -/

/-- A condition on single rows. -/
inductive Condition
  | compare (column operator : String) (value : Value)
  | oneOf (column : String) (values : List Value) (negated : Bool)
  | isNull (column : String) (negated : Bool)
  | between (column : String) (low high : Value) (negated : Bool)
  /-- SQL text, with one value for every marker. -/
  | raw (sql : String) (values : List Value)
  /-- The text of a group of conditions, with one value for every marker. -/
  | nested (fragment : String) (values : List Value)
  | compareColumns (left operator right : String)

namespace Condition

/-- The values of a condition in the order in which they are written. -/
def values : Condition → List Value
  | .compare _ _ v => [v]
  | .oneOf _ vs _ => vs
  | .isNull .. => []
  | .between _ low high _ => [low, high]
  | .raw _ vs => vs
  | .nested _ vs => vs
  | .compareColumns .. => []

/-- The column that a condition tests, if it tests a single one against values. -/
def column? : Condition → Option String
  | .compare c .. => some c
  | .oneOf c .. => some c
  | .isNull c _ => some c
  | .between c .. => some c
  | _ => none

end Condition

/-- A condition in a list of conditions. -/
structure Where where
  connective : Connective
  condition : Condition

/-- The values of a condition in a list. -/
def Where.values (w : Where) : List Value := w.condition.values

/-- A condition on groups of rows. -/
inductive GroupCondition
  | compare (column operator : String) (value : Value)
  | raw (sql : String) (values : List Value)

/-- The values of a group condition. -/
def GroupCondition.values : GroupCondition → List Value
  | .compare _ _ v => [v]
  | .raw _ vs => vs

/-- A condition in a list of group conditions. -/
structure Having where
  connective : Connective
  condition : GroupCondition

/-- The values of a group condition in a list. -/
def Having.values (h : Having) : List Value := h.condition.values

/-! ## Joins, orders and columns -/

/-- The kinds of joins. -/
inductive JoinKind
  | inner
  | left
  | right
  | cross
deriving DecidableEq, Repr

/-- The words for a join. -/
def JoinKind.words : JoinKind → String
  | .inner => "INNER JOIN"
  | .left => "LEFT JOIN"
  | .right => "RIGHT JOIN"
  | .cross => "CROSS JOIN"

/-- A comparison of two columns. -/
structure JoinCondition where
  first : String
  operator : String
  second : String
deriving DecidableEq, Repr

/-- A join with another table. Only a cross join has no condition. -/
structure Join where
  kind : JoinKind
  table : String
  condition : Option JoinCondition
deriving DecidableEq, Repr

/-- A direction of sorting. -/
inductive Direction
  | ascending
  | descending
deriving DecidableEq, Repr

/-- The word for a direction. -/
def Direction.word : Direction → String
  | .ascending => "ASC"
  | .descending => "DESC"

/-- One key of the order of rows. -/
inductive Order
  | column (name : String) (direction : Direction)
  | raw (sql : String) (values : List Value)

namespace Order

/-- The values of an order key. -/
def values : Order → List Value
  | .column .. => []
  | .raw _ vs => vs

/-- The last of the dotted parts of a reference. -/
def lastPart (reference : String) : String :=
  String.ofList (((reference.toList.splitOn '.').getLast?).getD [])

/-- The words of a raw key: its runs of letters, numbers and underscores. -/
def tokens (sql : String) : List String :=
  (sql.toList.splitOnP fun c => !(Text.isWordChar c || c == '_')).map String.ofList

/-- Mentions a column, alone or behind a qualifier. -/
def references (column : String) : Order → Bool
  | .column c _ => c == column || lastPart c == column
  | .raw sql _ => (tokens sql).contains column

end Order

/-- One entry of the select list. -/
inductive SelectColumn
  | column (name : String)
  | raw (sql : String) (values : List Value)

namespace SelectColumn

/-- The values of a select entry. -/
def values : SelectColumn → List Value
  | .column _ => []
  | .raw _ vs => vs

/-- All columns. -/
def star : SelectColumn := .column "*"

/-- Selects all columns. -/
def isStar : SelectColumn → Bool
  | .column name => name == "*"
  | .raw .. => false

end SelectColumn

/-- How the rows that a query reads are locked. -/
inductive Lock
  | forUpdate
  | shared
deriving DecidableEq, Repr

/-- The aggregate functions. -/
inductive Aggregate
  | count
  | sum
  | avg
  | min
  | max
deriving DecidableEq, Repr

/-- The name of an aggregate function. -/
def Aggregate.word : Aggregate → String
  | .count => "COUNT"
  | .sum => "SUM"
  | .avg => "AVG"
  | .min => "MIN"
  | .max => "MAX"

end QueryKit
