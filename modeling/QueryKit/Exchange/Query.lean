import QueryKit.Exchange.Outcome
import QueryKit.Query.Basic
set_option autoImplicit false

/-! # Queries in exchange

A query is an object with a field for every part. A part that is not given is as in the query that
reads all columns of its table. What is written tells in addition which column and which values a
condition uses, and whether the query is a page of its rows. -/

namespace QueryKit

/-- The fields of a raw part. -/
def rawFields (sql : String) (values : List Value) : List (String × Json) :=
  [("sql", .string sql), ("bindings", encode values)]

/-- Reads the fields of a raw part. -/
def readRaw? (j : Json) : Option (String × List Value) := do
  return (← j.read? "sql", ← j.read? "bindings")

/-! ## Words -/

/-- The member of a list that is written as a word. -/
def ofWord? {α : Type} (write : α → String) (all : List α) (j : Json) : Option α := do
  let word ← (decode? j : Option String)
  all.find? fun a => write a == word

/-- The word for a lock. -/
def Lock.word : Lock → String
  | .forUpdate => "for_update"
  | .shared => "shared"

instance : Decode Connective := ⟨ofWord? Connective.word [.and, .or]⟩

instance : Decode JoinKind := ⟨ofWord? JoinKind.words [.inner, .left, .right, .cross]⟩

instance : Decode Direction := ⟨ofWord? Direction.word [.ascending, .descending]⟩

instance : Decode Lock := ⟨ofWord? Lock.word [.forUpdate, .shared]⟩

instance : Encode Lock := ⟨fun l => .string l.word⟩

/-! ## Columns, joins and orders -/

instance : Encode SelectColumn where
  encode
    | .column name => .string name
    | .raw sql values => .ofFields (rawFields sql values)

instance : Decode SelectColumn where
  decode?
    | .string name => some (.column name)
    | j => (readRaw? j).map fun (sql, values) => .raw sql values

instance : Encode JoinCondition := ⟨fun c => encode [c.first, c.operator, c.second]⟩

instance : Decode JoinCondition where
  decode? j := (decode? j : Option (List String)).bind fun
    | [first, operator, second] => some ⟨first, operator, second⟩
    | _ => none

instance : Encode Join where
  encode j :=
    .ofFields [("kind", .string j.kind.words), ("table", .string j.table), ("on", encode j.condition)]

instance : Decode Join := ⟨fun j => do return ⟨← j.read? "kind", ← j.read? "table", ← j.read? "on"⟩⟩

instance : Encode Order where
  encode
    | .column name direction =>
      .ofFields [("column", .string name), ("direction", .string direction.word)]
    | .raw sql values => .ofFields (rawFields sql values)

instance : Decode Order where
  decode? j :=
    match j.field? "column" with
    | some c => do return .column (← decode? c) (← j.readOr .ascending "direction")
    | none => (readRaw? j).map fun (sql, values) => .raw sql values

/-! ## Conditions -/

/-- The fields of a condition. -/
def Condition.fields : Condition → List (String × Json)
  | .compare c op v =>
    [("type", .string "basic"), ("column", .string c), ("operator", .string op), ("value", encode v)]
  | .oneOf c vs negated =>
    [("type", .string "in"), ("column", .string c), ("values", encode vs), ("not", .bool negated)]
  | .isNull c negated => [("type", .string "null"), ("column", .string c), ("not", .bool negated)]
  | .between c low high negated =>
    [("type", .string "between"), ("column", .string c), ("range", encode [low, high]),
      ("not", .bool negated)]
  | .raw sql vs => ("type", .string "raw") :: rawFields sql vs
  | .nested fragment vs =>
    [("type", .string "nested"), ("fragment", .string fragment), ("bindings", encode vs)]
  | .compareColumns l op r =>
    [("type", .string "column"), ("left", .string l), ("operator", .string op),
      ("right", .string r)]

/-- Reads the fields of a condition. -/
def Condition.ofFields? (j : Json) : Option Condition := do
  match (← j.read? "type" : String) with
  | "basic" => return .compare (← j.read? "column") (← j.read? "operator") (← j.read? "value")
  | "in" => return .oneOf (← j.read? "column") (← j.read? "values") (← j.readOr false "not")
  | "null" => return .isNull (← j.read? "column") (← j.readOr false "not")
  | "between" =>
    let (low, high) ← j.read? "range"
    return .between (← j.read? "column") low high (← j.readOr false "not")
  | "raw" => (readRaw? j).map fun (sql, values) => .raw sql values
  | "nested" => return .nested (← j.read? "fragment") (← j.read? "bindings")
  | "column" => return .compareColumns (← j.read? "left") (← j.read? "operator") (← j.read? "right")
  | _ => none

/-- The fields of a group condition. -/
def GroupCondition.fields : GroupCondition → List (String × Json)
  | .compare c op v => (Condition.compare c op v).fields
  | .raw sql vs => (Condition.raw sql vs).fields

/-- Reads the fields of a group condition. -/
def GroupCondition.ofFields? (j : Json) : Option GroupCondition := do
  match ← Condition.ofFields? j with
  | .compare c op v => return .compare c op v
  | .raw sql vs => return .raw sql vs
  | _ => none

instance : Encode Where where
  encode w :=
    .ofFields (w.condition.fields ++
      [("boolean", .string w.connective.word), ("on", encode w.condition.column?),
        ("binds", encode w.values)])

instance : Decode Where where
  decode? j := do return ⟨← j.readOr .and "boolean", ← Condition.ofFields? j⟩

instance : Encode Having where
  encode h :=
    .ofFields (h.condition.fields ++
      [("boolean", .string h.connective.word), ("binds", encode h.values)])

instance : Decode Having where
  decode? j := do return ⟨← j.readOr .and "boolean", ← GroupCondition.ofFields? j⟩

/-! ## Queries -/

instance : Encode Query where
  encode q :=
    .ofFields
      [("table", .string q.table), ("primary_key", .string q.primaryKey),
        ("columns", encode q.columns), ("distinct", .bool q.distinct), ("wheres", encode q.wheres),
        ("joins", encode q.joins), ("groups", encode q.groups), ("havings", encode q.havings),
        ("orders", encode q.orders), ("limit", encode q.limit), ("offset", encode q.offset),
        ("lock", encode q.lock), ("bindings", encode q.bindings),
        ("paginated", .bool q.isPaginated), ("orders_key", .bool (q.ordersReference q.primaryKey))]

instance : Decode Query where
  decode? j := do
    pure
      { table := ← j.read? "table"
        primaryKey := ← j.readOr "id" "primary_key"
        columns := ← j.readOr [.star] "columns"
        distinct := ← j.readOr false "distinct"
        wheres := ← j.read? "wheres"
        joins := ← j.read? "joins"
        groups := ← j.read? "groups"
        havings := ← j.read? "havings"
        orders := ← j.read? "orders"
        limit := ← j.read? "limit"
        offset := ← j.read? "offset"
        lock := ← j.read? "lock"
        bindings := ← j.read? "bindings" }

end QueryKit
