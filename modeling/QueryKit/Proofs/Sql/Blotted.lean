import QueryKit.Proofs.Sql.Layout

set_option autoImplicit false

/-! # Statements with their values blotted out

Queries that differ in their values only (`Query.Alike`) compile to templates that differ in the values
of their holes only, and such templates have one text. So no statement shows a value in its text. -/

namespace QueryKit

/-- As many values, all of them blotted out. -/
def Value.blots (values : List Value) : List Value :=
  values.map fun _ => .null

theorem Value.length_blots (values : List Value) : (blots values).length = values.length :=
  List.length_map _

theorem Value.blots_blots (values : List Value) : blots (blots values) = blots values :=
  List.map_map

/-! ## Templates -/

namespace Sql

/-- The piece without the value of its hole. -/
def Piece.blotted : Piece → Piece
  | .text s => .text s
  | .hole _ => .hole .null

namespace Template

/-- The template without the values of its holes. -/
def blotted (t : Template) : Template :=
  t.map Piece.blotted

@[simp] theorem blotted_nil : blotted [] = [] := rfl

@[simp] theorem blotted_text_cons (s : String) (t : Template) :
    blotted (.text s :: t) = .text s :: blotted t := rfl

@[simp] theorem blotted_hole_cons (v : Value) (t : Template) :
    blotted (.hole v :: t) = .hole .null :: blotted t := rfl

@[simp] theorem blotted_append (t u : Template) : blotted (t ++ u) = blotted t ++ blotted u :=
  List.map_append

@[simp] theorem blotted_text (s : String) : blotted (text s) = text s := rfl

theorem blotted_blotted (t : Template) : t.blotted.blotted = t.blotted := by
  rw [blotted, blotted, List.map_map]
  apply List.map_congr_left
  intro piece _
  cases piece <;> rfl

theorem blotted_join (separator : String) (ts : List Template) :
    blotted (join separator ts) = join separator (ts.map blotted) := by
  induction ts with
  | nil => rfl
  | cons t rest ih =>
      cases rest with
      | nil => rfl
      | cons u rest =>
          rw [join, blotted_append, blotted_text_cons, ih]
          · rfl
          · intro h
            cases h

theorem values_blotted (t : Template) : (blotted t).values = Value.blots t.values := by
  induction t with
  | nil => rfl
  | cons piece rest ih =>
      cases piece with
      | text s => exact ih
      | hole v => exact congrArg (Value.null :: ·) ih

theorem isBlank_blotted (t : Template) : (blotted t).isBlank = t.isBlank := by
  induction t with
  | nil => rfl
  | cons piece rest ih =>
      cases piece with
      | text s => exact congrArg (s.isEmpty && ·) ih
      | hole v => rfl

/-- A way to write holes that does not look at their values writes the same without them. -/
theorem write_blotted (place : Nat → String) (start : Nat) (t : Template) :
    (blotted t).write (fun i _ => place i) start = t.write (fun i _ => place i) start := by
  induction t generalizing start with
  | nil => rfl
  | cons piece rest ih =>
      cases piece with
      | text s => rw [blotted_text_cons, write, write, ih]
      | hole v => rw [blotted_hole_cons, write, write, ih]

theorem numbered_blotted (d : Dialect) (start : Nat) (t : Template) :
    (blotted t).numbered d start = t.numbered d start :=
  write_blotted d.placeholder start t

theorem marked_blotted (t : Template) : (blotted t).marked = t.marked :=
  write_blotted (fun _ => "?") 1 t

theorem blotted_fillFrom (span : Span) (cs : List Char) (values : List Value) :
    blotted (fillFrom span cs values) = fillFrom span cs (Value.blots values) := by
  induction cs generalizing span values with
  | nil => rfl
  | cons c rest ih =>
      simp only [fillFrom]
      split
      · cases values with
        | nil => exact congrArg (Piece.text _ :: ·) (ih _ [])
        | cons v values => exact congrArg (Piece.hole .null :: ·) (ih _ values)
      · exact congrArg (Piece.text _ :: ·) (ih _ values)

theorem blotted_fill (sql : String) (values : List Value) :
    blotted (fill sql values) = fill sql (Value.blots values) :=
  blotted_fillFrom none sql.toList values

theorem blotted_holes (values : List Value) :
    (values.map hole).map blotted = (Value.blots values).map hole := by
  rw [Value.blots, List.map_map, List.map_map]
  rfl

end Template

end Sql

/-! ## Clauses -/

/-- The condition without its values. Of a list of values, the length is left. -/
def Condition.blotted : Condition → Condition
  | .compare column op _ => .compare column op .null
  | .oneOf column values negated => .oneOf column (Value.blots values) negated
  | .isNull column negated => .isNull column negated
  | .between column _ _ negated => .between column .null .null negated
  | .raw sql values => .raw sql (Value.blots values)
  | .nested fragment values => .nested fragment (Value.blots values)
  | .compareColumns left op right => .compareColumns left op right

/-- The condition of a list without its values. -/
def Where.blotted (w : Where) : Where :=
  ⟨w.connective, w.condition.blotted⟩

/-- The group condition without its values. -/
def GroupCondition.blotted : GroupCondition → GroupCondition
  | .compare column op _ => .compare column op .null
  | .raw sql values => .raw sql (Value.blots values)

/-- The group condition of a list without its values. -/
def Having.blotted (h : Having) : Having :=
  ⟨h.connective, h.condition.blotted⟩

/-- The order key without its values. -/
def Order.blotted : Order → Order
  | .column name direction => .column name direction
  | .raw sql values => .raw sql (Value.blots values)

/-- The select entry without its values. -/
def SelectColumn.blotted : SelectColumn → SelectColumn
  | .column name => .column name
  | .raw sql values => .raw sql (Value.blots values)

theorem Condition.blotted_blotted (c : Condition) : c.blotted.blotted = c.blotted := by
  cases c with
  | compare | isNull | between | compareColumns => rfl
  | oneOf column values negated => exact congrArg (oneOf column · negated) (Value.blots_blots values)
  | raw sql values => exact congrArg (raw sql) (Value.blots_blots values)
  | nested fragment values => exact congrArg (nested fragment) (Value.blots_blots values)

theorem GroupCondition.blotted_blotted (c : GroupCondition) : c.blotted.blotted = c.blotted := by
  cases c with
  | compare => rfl
  | raw sql values => exact congrArg (raw sql) (Value.blots_blots values)

theorem Having.blotted_blotted (h : Having) : h.blotted.blotted = h.blotted :=
  congrArg (mk h.connective) h.condition.blotted_blotted

theorem Order.blotted_blotted (o : Order) : o.blotted.blotted = o.blotted := by
  cases o with
  | column => rfl
  | raw sql values => exact congrArg (raw sql) (Value.blots_blots values)

theorem SelectColumn.blotted_blotted (c : SelectColumn) : c.blotted.blotted = c.blotted := by
  cases c with
  | column => rfl
  | raw sql values => exact congrArg (raw sql) (Value.blots_blots values)

namespace Sql

variable (d : Dialect)

theorem blotted_conditionTemplate (c : Condition) :
    (conditionTemplate d c).blotted = conditionTemplate d c.blotted := by
  cases c with
  | compare | isNull | between | compareColumns => rfl
  | oneOf column values negated =>
      simp only [conditionTemplate, Condition.blotted, Template.blotted_text_cons,
        Template.blotted_append, Template.blotted_join, Template.blotted_holes, Template.blotted_text]
  | raw sql values => exact Template.blotted_fill sql values
  | nested fragment values =>
      simp only [conditionTemplate, Condition.blotted, Template.blotted_text_cons,
        Template.blotted_append, Template.blotted_fill, Template.blotted_text]

theorem blotted_groupConditionTemplate (c : GroupCondition) :
    (groupConditionTemplate d c).blotted = groupConditionTemplate d c.blotted := by
  cases c with
  | compare => rfl
  | raw sql values => exact Template.blotted_fill sql values

theorem blotted_orderTemplate (o : Order) :
    (orderTemplate d o).blotted = orderTemplate d o.blotted := by
  cases o with
  | column => rfl
  | raw sql values => exact Template.blotted_fill sql values

theorem blotted_columnTemplate (c : SelectColumn) :
    (columnTemplate d c).blotted = columnTemplate d c.blotted := by
  cases c with
  | column => rfl
  | raw sql values => exact Template.blotted_fill sql values

theorem blotted_connected (parts : List (Connective × Template)) :
    (connected parts).blotted = connected (parts.map fun p => (p.1, p.2.blotted)) := by
  cases parts with
  | nil => rfl
  | cons first rest =>
      rw [connected, Template.blotted_append, List.map_cons, connected, List.flatMap_map]
      congr 1
      induction rest with
      | nil => rfl
      | cons p rest ih =>
          rw [List.flatMap_cons, Template.blotted_append, ih, List.flatMap_cons]
          rfl

theorem blotted_wheresTemplate (wheres : List Where) :
    (wheresTemplate d wheres).blotted = wheresTemplate d (wheres.map Where.blotted) := by
  rw [wheresTemplate, blotted_connected, wheresTemplate, List.map_map, List.map_map]
  congr 1
  apply List.map_congr_left
  intro w _
  exact congrArg (w.connective, ·) (blotted_conditionTemplate d w.condition)

theorem blotted_havingsTemplate (havings : List Having) :
    (havingsTemplate d havings).blotted = havingsTemplate d (havings.map Having.blotted) := by
  rw [havingsTemplate, blotted_connected, havingsTemplate, List.map_map, List.map_map]
  congr 1
  apply List.map_congr_left
  intro h _
  exact congrArg (h.connective, ·) (blotted_groupConditionTemplate d h.condition)

theorem blotted_columnTemplates (columns : List SelectColumn) :
    (columns.map (columnTemplate d)).map Template.blotted
      = (columns.map SelectColumn.blotted).map (columnTemplate d) := by
  rw [List.map_map, List.map_map]
  exact List.map_congr_left fun c _ => blotted_columnTemplate d c

theorem blotted_ordersTemplate (orders : List Order) :
    (ordersTemplate d orders).blotted = ordersTemplate d (orders.map Order.blotted) := by
  have hall : (orders.map (orderTemplate d)).map Template.blotted
      = (orders.map Order.blotted).map (orderTemplate d) := by
    rw [List.map_map, List.map_map]
    exact List.map_congr_left fun o _ => blotted_orderTemplate d o
  cases orders with
  | nil => rfl
  | cons o rest =>
      rw [ordersTemplate, Template.blotted_text_cons, Template.blotted_join, hall]
      · rfl
      · intro h
        cases h

theorem blotted_clause (words : String) (t : Template) :
    (clause words t).blotted = clause words t.blotted := by
  rw [clause, clause, Template.isBlank_blotted]
  split <;> rfl

/-- A group keeps of its values only how many there are. -/
theorem blotted_group (wheres : List Where) :
    (group d wheres).blotted = group d (wheres.map Where.blotted) := by
  have htemplate := blotted_wheresTemplate d wheres
  rw [group_eq, group_eq, Condition.blotted, ← htemplate, Template.marked_blotted,
    Template.values_blotted]

end Sql

/-! ## Queries -/

/-- The queries differ in their values only. -/
structure Query.Alike (q q' : Query) : Prop where
  table : q.table = q'.table
  primaryKey : q.primaryKey = q'.primaryKey
  columns : q.columns.map SelectColumn.blotted = q'.columns.map SelectColumn.blotted
  distinct : q.distinct = q'.distinct
  wheres : q.wheres.map Where.blotted = q'.wheres.map Where.blotted
  joins : q.joins = q'.joins
  groups : q.groups = q'.groups
  havings : q.havings.map Having.blotted = q'.havings.map Having.blotted
  orders : q.orders.map Order.blotted = q'.orders.map Order.blotted
  limit : q.limit = q'.limit
  offset : q.offset = q'.offset
  lock : q.lock = q'.lock

namespace Query.Alike

variable {q q' : Query} (h : q.Alike q') (d : Dialect)

include h

theorem isPaginated : q.isPaginated = q'.isPaginated := by
  rw [Query.isPaginated, h.limit, h.offset, Query.isPaginated]

theorem wheresTemplate :
    (Sql.wheresTemplate d q.wheres).blotted = (Sql.wheresTemplate d q'.wheres).blotted := by
  rw [Sql.blotted_wheresTemplate, h.wheres, Sql.blotted_wheresTemplate]

theorem wheres_isEmpty : q.wheres.isEmpty = q'.wheres.isEmpty := by
  rw [← List.isEmpty_map, h.wheres, List.isEmpty_map]

theorem selectTemplate : (Sql.selectTemplate d q).blotted = (Sql.selectTemplate d q').blotted := by
  simp only [Sql.selectTemplate, Sql.Template.blotted_text_cons, Sql.Template.blotted_append,
    Sql.Template.blotted_join, Sql.blotted_columnTemplates, Sql.Template.blotted_text,
    Sql.blotted_clause, Sql.blotted_wheresTemplate, Sql.blotted_havingsTemplate,
    Sql.blotted_ordersTemplate, h.table, h.columns, h.distinct, h.wheres, h.joins, h.groups,
    h.havings, h.orders, h.limit, h.offset, h.lock]

theorem all_isStar : q.columns.all SelectColumn.isStar = q'.columns.all SelectColumn.isStar := by
  have hblotted : ∀ columns : List SelectColumn,
      columns.all SelectColumn.isStar = (columns.map SelectColumn.blotted).all SelectColumn.isStar := by
    intro columns
    rw [List.all_map]
    congr 1
    funext c
    cases c <;> rfl
  rw [hblotted, h.columns, ← hblotted]

theorem derived : (Sql.derived q).Alike (Sql.derived q') := by
  refine { h with lock := rfl, columns := ?_ }
  simp only [Sql.derived, h.groups, h.all_isStar]
  split
  · rfl
  · exact h.columns

theorem aggregateTemplate (function : Aggregate) (column : String) :
    (Sql.aggregateTemplate d q function column).blotted
      = (Sql.aggregateTemplate d q' function column).blotted := by
  have hderived : Sql.isDerived q = Sql.isDerived q' := by
    rw [Sql.isDerived, h.groups, h.distinct, h.isPaginated, Sql.isDerived]
  simp only [Sql.aggregateTemplate, hderived]
  split
  · simp only [Sql.Template.blotted_text_cons, Sql.Template.blotted_append, h.derived.selectTemplate]
  · simp only [Sql.Template.blotted_text_cons, Sql.blotted_clause, h.wheresTemplate, h.table, h.joins]

theorem correlated (foreignKey : String) :
    (Sql.correlated d q foreignKey).Alike (Sql.correlated d q' foreignKey) := by
  refine { h with lock := rfl, wheres := ?_ }
  simp only [Sql.correlated, h.table, h.wheres_isEmpty, List.map_cons]
  congr 1
  split
  · rfl
  · have hgroup : (Sql.group d q.wheres).blotted = (Sql.group d q'.wheres).blotted := by
      rw [Sql.blotted_group, h.wheres, Sql.blotted_group]
    exact congrArg (fun c => [Where.mk .and c]) hgroup

end Query.Alike

/-! ## Requests -/

/-- The row without its values. -/
def Row.blotted (row : Row) : Row where
  entries := row.entries.map fun entry => (entry.1, .null)
  nodup := by
    rw [Assoc.keys, List.map_map]
    exact row.nodup

theorem Row.columns_blotted (row : Row) : row.blotted.columns = row.columns :=
  List.map_map

theorem Row.values_blotted (row : Row) : row.blotted.values = Value.blots row.values := by
  rw [values, Value.blots, blotted, values, List.map_map, List.map_map]
  rfl

namespace Sql

/-- The request without the values of its rows. The ids of a lateral read stay, as the type of their
    array is written. -/
def Request.blotted : Request → Request
  | .insert rows => .insert (rows.map Row.blotted)
  | .insertReturning row => .insertReturning row.blotted
  | .upsert rows u => .upsert (rows.map Row.blotted) u
  | .update values => .update (values.map fun entry => (entry.1, .null))
  | request => request

theorem blotted_rowTemplate (row : Row) : (rowTemplate row).blotted = rowTemplate row.blotted := by
  rw [rowTemplate, Template.blotted_text_cons, Template.blotted_append, Template.blotted_join,
    Template.blotted_holes, ← Row.values_blotted]
  rfl

theorem firstDifferent?_blotted (columns : List String) (rows : List Row) :
    firstDifferent? columns (rows.map Row.blotted) = firstDifferent? columns rows := by
  simp only [firstDifferent?, List.findIdx?_map, Function.comp_def, Row.columns_blotted]

section Rows

variable (d : Dialect)

theorem insertTemplate_blotted (verb : String) (q : Query) (rows : List Row) :
    insertTemplate d verb q (rows.map Row.blotted)
      = (insertTemplate d verb q rows).map Template.blotted := by
  cases rows with
  | nil => rfl
  | cons first rest =>
      have hempty : first.blotted.isEmpty = first.isEmpty := List.isEmpty_map
      have hrows : ((first :: rest).map rowTemplate).map Template.blotted
          = ((first :: rest).map Row.blotted).map rowTemplate := by
        rw [List.map_map, List.map_map]
        exact List.map_congr_left fun row _ => blotted_rowTemplate row
      simp only [List.map_cons] at hrows
      simp only [insertTemplate, List.map_cons, hempty, List.isEmpty_map, Row.columns_blotted,
        firstDifferent?_blotted]
      split
      · split <;> rfl
      · split
        · rfl
        · simp only [Except.map, Template.blotted_text_cons, Template.blotted_join, List.map_cons,
            hrows]

/-- The assignments of an update do not show their values. -/
theorem blotted_assignments (values : List (String × Value)) :
    (Template.join ", " ((values.map fun entry => (entry.1, Value.null)).map
        fun (c, v) => assignment d c v)).blotted
      = (Template.join ", " (values.map fun (c, v) => assignment d c v)).blotted := by
  rw [Template.blotted_join, Template.blotted_join, List.map_map, List.map_map, List.map_map]
  rfl

theorem updateTemplate_blotted (q : Query) (values : List (String × Value)) :
    (updateTemplate d q (values.map fun entry => (entry.1, .null))).map Template.blotted
      = (updateTemplate d q values).map Template.blotted := by
  simp only [updateTemplate, List.isEmpty_map]
  cases values.isEmpty with
  | true => rfl
  | false =>
      cases withoutJoins d q "UPDATE" with
      | error e => rfl
      | ok u =>
          cases mutationLimit d q with
          | error e => rfl
          | ok limit =>
              refine congrArg Except.ok ?_
              simp only [Template.blotted_text_cons, Template.blotted_append, blotted_assignments]

end Rows

end Sql

namespace Query.Alike

variable {q q' : Query} (h : q.Alike q') (d : Dialect)

include h

theorem insertTemplate (verb : String) (rows : List Row) :
    Sql.insertTemplate d verb q rows = Sql.insertTemplate d verb q' rows := by
  cases rows with
  | nil => rfl
  | cons first rest => simp only [Sql.insertTemplate, h.table]

theorem mutationLimit : Sql.mutationLimit d q = Sql.mutationLimit d q' := by
  rw [Sql.mutationLimit, h.limit]
  rfl

theorem withoutJoins (verb : String) : Sql.withoutJoins d q verb = Sql.withoutJoins d q' verb := by
  rw [Sql.withoutJoins, h.joins]
  rfl

theorem updateTemplate (values : List (String × Value)) :
    (Sql.updateTemplate d q values).map Sql.Template.blotted
      = (Sql.updateTemplate d q' values).map Sql.Template.blotted := by
  simp only [Sql.updateTemplate, h.withoutJoins, h.mutationLimit, h.table]
  cases values.isEmpty with
  | true => rfl
  | false =>
      cases Sql.withoutJoins d q' "UPDATE" with
      | error e => rfl
      | ok u =>
          cases Sql.mutationLimit d q' with
          | error e => rfl
          | ok limit =>
              refine congrArg Except.ok ?_
              simp only [Sql.Template.blotted_text_cons, Sql.Template.blotted_append,
                Sql.blotted_clause, h.wheresTemplate]

theorem deleteTemplate :
    (Sql.deleteTemplate d q).map Sql.Template.blotted
      = (Sql.deleteTemplate d q').map Sql.Template.blotted := by
  simp only [Sql.deleteTemplate, h.withoutJoins, h.mutationLimit, h.table]
  cases Sql.withoutJoins d q' "DELETE" with
  | error e => rfl
  | ok u =>
      cases Sql.mutationLimit d q' with
      | error e => rfl
      | ok limit =>
          refine congrArg Except.ok ?_
          simp only [Sql.Template.blotted_text_cons, Sql.Template.blotted_append, Sql.blotted_clause,
            h.wheresTemplate]

theorem lateralTemplate? (foreignKey : String) (ids : List Value) :
    (Sql.lateralTemplate? d q foreignKey ids).map Sql.Template.blotted
      = (Sql.lateralTemplate? d q' foreignKey ids).map Sql.Template.blotted := by
  simp only [Sql.lateralTemplate?]
  split
  · split
    · rfl
    · simp only [Except.map, Sql.lateralTemplate, Sql.Template.blotted_append,
        (h.correlated d foreignKey).selectTemplate]
  · rfl

/-- What is written for a request depends on the values of the query in the holes only. -/
theorem template (r : Sql.Request) :
    (r.template d q).map Sql.Template.blotted = (r.template d q').map Sql.Template.blotted := by
  cases r with
  | select => exact congrArg Except.ok (h.selectTemplate d)
  | insert rows => exact congrArg (Except.map Sql.Template.blotted) (h.insertTemplate d _ rows)
  | insertReturning row =>
      simp only [Sql.Request.template, Sql.insertReturningTemplate, h.insertTemplate,
        Sql.returningText, h.primaryKey]
  | upsert rows u => simp only [Sql.Request.template, Sql.upsertTemplate, h.insertTemplate]
  | update values => exact h.updateTemplate d values
  | delete => exact h.deleteTemplate d
  | aggregate function column => exact congrArg Except.ok (h.aggregateTemplate d function column)
  | anyRow =>
      refine congrArg Except.ok ?_
      simp only [Sql.existsTemplate, Sql.Template.blotted_text_cons, Sql.Template.blotted_append,
        h.selectTemplate]
  | lateral foreignKey ids => exact h.lateralTemplate? d foreignKey ids

end Query.Alike

namespace Sql.Request

variable (d : Dialect) (q : Query)

/-- What is written for a request depends on the values of its rows in the holes only. -/
theorem template_blotted (r : Request) :
    (r.blotted.template d q).map Template.blotted = (r.template d q).map Template.blotted := by
  have htwice : ∀ written : Except Error Template,
      (written.map Template.blotted).map Template.blotted = written.map Template.blotted := by
    intro written
    cases written with
    | error e => rfl
    | ok t => exact congrArg Except.ok t.blotted_blotted
  cases r with
  | insert rows =>
      simp only [blotted, template, insertTemplate_blotted, htwice]
  | insertReturning row =>
      have hinsert := insertTemplate_blotted d insertVerb q [row]
      rw [List.map_singleton] at hinsert
      simp only [blotted, template, insertReturningTemplate, hinsert]
      cases insertTemplate d insertVerb q [row] with
      | error e => rfl
      | ok t =>
          refine congrArg Except.ok ?_
          rw [Template.blotted_append, Template.blotted_append, Template.blotted_blotted]
  | upsert rows u =>
      simp only [blotted, template, upsertTemplate]
      cases conflictClause d u with
      | error e => rfl
      | ok conflict =>
          have hinsert := insertTemplate_blotted d conflict.verb q rows
          simp only [bind, Except.bind, hinsert]
          cases insertTemplate d conflict.verb q rows with
          | error e => rfl
          | ok t =>
              refine congrArg Except.ok ?_
              rw [Template.blotted_append, Template.blotted_append, Template.blotted_blotted]
  | update values => exact updateTemplate_blotted d q values
  | select | delete | aggregate | anyRow | lateral => rfl

/-- The text of a request is that of its template without values. -/
theorem sql_compile (r : Request) :
    (r.compile d q).map Statement.sql
      = ((r.template d q).map Template.blotted).map fun t => t.numbered d 1 := by
  rw [compile_eq_map]
  cases r.template d q with
  | error e => rfl
  | ok t => exact congrArg Except.ok (t.numbered_blotted d 1).symm

/-- **Requests of one text.** Requests that differ in the values of their rows only, made of queries
    that differ in their values only, fail alike or have one text. -/
theorem sql_compile_congr {q q' : Query} (hq : q.Alike q') {r r' : Request}
    (hr : r.blotted = r'.blotted) :
    (r.compile d q).map Statement.sql = (r'.compile d q').map Statement.sql := by
  rw [sql_compile, sql_compile, hq.template d r, ← template_blotted, hr, template_blotted]

end Sql.Request

end QueryKit
