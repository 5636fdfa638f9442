import QueryKit.Proofs.Sql.Template
import QueryKit.Sql.Aggregate
import QueryKit.Sql.Lateral
import QueryKit.Sql.Mutation

set_option autoImplicit false

/-! # Templates of statements

What every clause and every statement is to write, with the values in their places, and the values of
statements by clause. -/

namespace QueryKit.Sql

/-! ## Conditions -/

/-- A comparison of a column with a value. -/
def compareTemplate (d : Dialect) (column op : String) (value : Value) : Template :=
  [.text (d.column column ++ " " ++ d.operator op ++ " "), .hole value]

/-- The template of one condition. -/
def conditionTemplate (d : Dialect) : Condition → Template
  | .compare column op value => compareTemplate d column op value
  | .oneOf column values negated =>
    .text (d.column column ++ (if negated then " NOT IN (" else " IN (")) ::
      (Template.join ", " (values.map Template.hole) ++ Template.text ")")
  | .isNull column negated =>
    Template.text (d.column column ++ (if negated then " IS NOT NULL" else " IS NULL"))
  | .between column low high negated =>
    [.text (d.column column ++ (if negated then " NOT BETWEEN " else " BETWEEN ")), .hole low,
      .text " AND ", .hole high]
  | .raw sql values => Template.fill sql values
  | .nested fragment values =>
    .text "(" :: (Template.fill fragment values ++ Template.text ")")
  | .compareColumns left op right =>
    Template.text (d.column left ++ " " ++ d.operator op ++ " " ++ d.column right)

/-- The template of one group condition. -/
def groupConditionTemplate (d : Dialect) : GroupCondition → Template
  | .compare column op value => compareTemplate d column op value
  | .raw sql values => Template.fill sql values

/-- Conditions with the connectives between them; the first connective does not count. -/
def connected : List (Connective × Template) → Template
  | [] => []
  | (_, first) :: rest =>
    first ++ rest.flatMap fun (c, t) => .text (" " ++ c.word ++ " ") :: t

/-- The template of a list of conditions. -/
def wheresTemplate (d : Dialect) (wheres : List Where) : Template :=
  connected (wheres.map fun w => (w.connective, conditionTemplate d w.condition))

/-- The template of a list of group conditions. -/
def havingsTemplate (d : Dialect) (havings : List Having) : Template :=
  connected (havings.map fun h => (h.connective, groupConditionTemplate d h.condition))

/-- A part with its words in front of it, or nothing if the part writes nothing. -/
def clause (words : String) (t : Template) : Template :=
  if t.isBlank then [] else .text words :: t

/-! ## Reads -/

/-- The template of one select entry. -/
def columnTemplate (d : Dialect) : SelectColumn → Template
  | .column name => Template.text (d.column name)
  | .raw sql values => Template.fill sql values

/-- The template of one order key. -/
def orderTemplate (d : Dialect) : Order → Template
  | .column name direction => Template.text (d.column name ++ " " ++ direction.word)
  | .raw sql values => Template.fill sql values

/-- The orders with their words, if there are any. -/
def ordersTemplate (d : Dialect) : List Order → Template
  | [] => []
  | orders => .text " ORDER BY " :: Template.join ", " (orders.map (orderTemplate d))

/-- The template of a read. -/
def selectTemplate (d : Dialect) (q : Query) : Template :=
  .text (if q.distinct then "SELECT DISTINCT " else "SELECT ") ::
    (Template.join ", " (q.columns.map (columnTemplate d))
      ++ Template.text (" FROM " ++ d.table q.table ++ joinsText d q.joins)
      ++ clause " WHERE " (wheresTemplate d q.wheres)
      ++ Template.text (groupsText d q.groups)
      ++ clause " HAVING " (havingsTemplate d q.havings)
      ++ ordersTemplate d q.orders
      ++ Template.text (d.limitSuffix q.limit q.offset ++ lockText d q.lock))

/-! ## Writes -/

/-- The values of a row between parentheses. -/
def rowTemplate (row : Row) : Template :=
  .text "(" :: (Template.join ", " (row.values.map Template.hole) ++ Template.text ")")

/-- The template of an insert whose first words are `verb`. All rows have the columns of the first
    one; a row without columns can only be inserted alone. -/
def insertTemplate (d : Dialect) (verb : String) (q : Query) : List Row → Except Error Template
  | [] => .error (.validation .insertWithoutRows)
  | first :: rest =>
    let head := verb ++ " " ++ d.table q.table ++ " "
    if first.isEmpty then
      if rest.isEmpty then .ok (Template.text (head ++ d.defaultRow))
      else .error (.validation .insertWithoutColumns)
    else
      match firstDifferent? first.columns rest with
      | some row => .error (.validation (.insertColumnsDiffer row))
      | none =>
        let columns := String.intercalate ", " (first.columns.map d.identifier)
        .ok (.text (head ++ "(" ++ columns ++ ") VALUES ") ::
          Template.join ", " ((first :: rest).map rowTemplate))

/-- The template of an insert of one row that returns the generated key. Where the dialect cannot
    return it, the insert is a plain one. -/
def insertReturningTemplate (d : Dialect) (q : Query) (row : Row) : Except Error Template :=
  (insertTemplate d insertVerb q [row]).map fun t => t ++ Template.text (returningText d q)

/-- The template of an insert that resolves conflicts. -/
def upsertTemplate (d : Dialect) (q : Query) (rows : List Row) (u : Upsert) :
    Except Error Template := do
  let conflict ← conflictClause d u
  let body ← insertTemplate d conflict.verb q rows
  .ok (body ++ Template.text conflict.suffix)

/-- An assignment of a value to a column. -/
def assignment (d : Dialect) (column : String) (value : Value) : Template :=
  [.text (d.identifier (unqualified column) ++ " = "), .hole value]

/-- The template of an update. The new values come before those of the conditions. -/
def updateTemplate (d : Dialect) (q : Query) (values : List (String × Value)) :
    Except Error Template := do
  if values.isEmpty then .error (.validation .updateWithoutColumns)
  withoutJoins d q "UPDATE"
  let limit ← mutationLimit d q
  .ok
    (.text ("UPDATE " ++ d.table q.table ++ " SET ") ::
      (Template.join ", " (values.map fun (c, v) => assignment d c v)
        ++ clause " WHERE " (wheresTemplate d q.wheres) ++ Template.text limit))

/-- The template of a delete. -/
def deleteTemplate (d : Dialect) (q : Query) : Except Error Template := do
  withoutJoins d q "DELETE"
  let limit ← mutationLimit d q
  .ok
    (.text ("DELETE FROM " ++ d.table q.table) ::
      (clause " WHERE " (wheresTemplate d q.wheres) ++ Template.text limit))

/-! ## Aggregates and lateral reads -/

/-- The template of an aggregate. -/
def aggregateTemplate (d : Dialect) (q : Query) (function : Aggregate) (column : String) :
    Template :=
  let label := d.identifier aggregateColumn
  if isDerived q then
    let target := if column == "*" then "*" else d.identifier (unqualified column)
    .text ("SELECT " ++ function.word ++ "(" ++ target ++ ") AS " ++ label ++ " FROM (") ::
      (selectTemplate d (derived q) ++ Template.text (") AS " ++ d.identifier "__agg"))
  else
    .text ("SELECT " ++ function.word ++ "(" ++ d.column column ++ ") AS " ++ label ++ " FROM "
        ++ d.table q.table ++ joinsText d q.joins) ::
      clause " WHERE " (wheresTemplate d q.wheres)

/-- The template of a test for rows. -/
def existsTemplate (d : Dialect) (q : Query) : Template :=
  .text "SELECT EXISTS(" ::
    (selectTemplate d q ++ Template.text (") AS " ++ d.identifier existsColumn))

/-- The template of a lateral read. -/
def lateralTemplate (d : Dialect) (q : Query) (foreignKey : String) (ids : List Value) :
    Template :=
  let parent := d.identifier "__parent"
  let parentKey := d.identifier parentKeyColumn
  let child := d.identifier "__child"
  [.text ("SELECT " ++ parent ++ "." ++ parentKey ++ ", " ++ child ++ ".* FROM unnest("),
      .hole (.array ids),
      .text ("::" ++ arrayCast ids ++ ") AS " ++ parent ++ "(" ++ parentKey
        ++ ") CROSS JOIN LATERAL (")]
    ++ selectTemplate d (correlated d q foreignKey)
    ++ Template.text (") AS " ++ child)

/-- The template of a lateral read, where the dialect has it. Ids are bound in canonical form. -/
def lateralTemplate? (d : Dialect) (q : Query) (foreignKey : String) (ids : List Value) :
    Except Error Template :=
  if d.supportsLateral then
    if ids.isEmpty then .error (.validation .lateralWithoutParents)
    else .ok (lateralTemplate d q foreignKey (ids.map Value.canonical))
  else .error (.lateralUnsupported d.name)

/-! ## Values of statements -/

@[simp] theorem values_clause (words : String) (t : Template) :
    (clause words t).values = t.values := by
  unfold clause
  split
  · next h => rw [Template.values_nil, Template.values_of_isBlank t h]
  · rfl

theorem values_connected (parts : List (Connective × Template)) :
    (connected parts).values = parts.flatMap fun p => p.2.values := by
  cases parts with
  | nil => rfl
  | cons first rest =>
      rw [connected, Template.values_append, Template.values_flatMap, List.flatMap_cons]
      rfl

theorem values_wheresTemplate (d : Dialect) (wheres : List Where) :
    (wheresTemplate d wheres).values
      = wheres.flatMap fun w => (conditionTemplate d w.condition).values := by
  simp [wheresTemplate, values_connected, List.flatMap_map]

theorem values_havingsTemplate (d : Dialect) (havings : List Having) :
    (havingsTemplate d havings).values
      = havings.flatMap fun h => (groupConditionTemplate d h.condition).values := by
  simp [havingsTemplate, values_connected, List.flatMap_map]

theorem values_ordersTemplate (d : Dialect) (orders : List Order) :
    (ordersTemplate d orders).values = orders.flatMap fun o => (orderTemplate d o).values := by
  cases orders with
  | nil => rfl
  | cons o rest =>
      rw [ordersTemplate, Template.values_text_cons, Template.values_join, List.flatMap_map]
      intro h
      cases h

/-- The values of a read are those of its columns, conditions, group conditions and orders. -/
theorem values_selectTemplate (d : Dialect) (q : Query) :
    (selectTemplate d q).values
      = (q.columns.flatMap fun c => (columnTemplate d c).values)
        ++ (wheresTemplate d q.wheres).values
        ++ (havingsTemplate d q.havings).values
        ++ q.orders.flatMap fun o => (orderTemplate d o).values := by
  simp [selectTemplate, Template.values_join, List.flatMap_map, values_ordersTemplate]

end QueryKit.Sql
