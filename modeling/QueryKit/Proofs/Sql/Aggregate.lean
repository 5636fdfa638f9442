import QueryKit.Proofs.Query.Feature
import QueryKit.Proofs.Sql.Written

set_option autoImplicit false

/-! # What aggregates are taken over

An aggregate should be taken over the rows that its query reads. Taken over a derived table it is: the
read stands in the statement with all its conditions. Taken directly it has the conditions on rows,
but nothing of the conditions on groups (`aggregate_filters_iff`). -/

namespace QueryKit

/-! ## Bound values -/

/-- Text in the condition has a marker for each of its values. -/
def Condition.IsBound : Condition → Prop
  | .raw sql vs | .nested sql vs => Sql.countMarkers sql = vs.length
  | _ => True

/-- Text in the group condition has a marker for each of its values. -/
def GroupCondition.IsBound : GroupCondition → Prop
  | .raw sql vs => Sql.countMarkers sql = vs.length
  | .compare .. => True

namespace Sql

variable (d : Dialect)

theorem values_conditionTemplate {c : Condition} (h : c.IsBound) :
    (conditionTemplate d c).values = c.values := by
  cases c with
  | raw sql vs | nested sql vs =>
    have hcount : countMarkers sql = vs.length := h
    simp [conditionTemplate, Template.values_fill, Condition.values, hcount]
  | oneOf column vs negated =>
    simp [conditionTemplate, Template.values_join, Condition.values, List.flatMap_map]
  | _ => rfl

theorem values_groupConditionTemplate {c : GroupCondition} (h : c.IsBound) :
    (groupConditionTemplate d c).values = c.values := by
  cases c with
  | compare column op value => rfl
  | raw sql vs =>
    have hcount : countMarkers sql = vs.length := h
    simp [groupConditionTemplate, Template.values_fill, GroupCondition.values, hcount]

/-- The values that a read binds for its conditions, on rows and then on groups. -/
def filterValues (q : Query) : List Value :=
  (wheresTemplate d q.wheres).values ++ (havingsTemplate d q.havings).values

theorem filterValues_of_isBound {q : Query} (hwheres : ∀ w ∈ q.wheres, w.condition.IsBound)
    (hhavings : ∀ h ∈ q.havings, h.condition.IsBound) :
    filterValues d q = q.wheres.flatMap Where.values ++ q.havings.flatMap Having.values := by
  rw [filterValues, values_wheresTemplate, values_havingsTemplate]
  congr 1
  · exact List.flatMap_congr fun w hw => values_conditionTemplate d (hwheres w hw)
  · exact List.flatMap_congr fun h hh => values_groupConditionTemplate d (hhavings h hh)

/-! ## Layout -/

variable (q : Query) (function : Aggregate) (column : String)

/-- What stands before the conditions of a read. -/
def readHead : Template :=
  .text (if q.distinct then "SELECT DISTINCT " else "SELECT ") ::
    (Template.join ", " (q.columns.map (columnTemplate d))
      ++ Template.text (" FROM " ++ d.table q.table ++ joinsText d q.joins))

/-- What stands behind the group conditions of a read. -/
def readTail : Template :=
  ordersTemplate d q.orders ++ Template.text (d.limitSuffix q.limit q.offset ++ lockText d q.lock)

theorem selectTemplate_eq :
    selectTemplate d q = readHead d q ++ clause " WHERE " (wheresTemplate d q.wheres)
      ++ (Template.text (groupsText d q.groups) ++ clause " HAVING " (havingsTemplate d q.havings)
        ++ readTail d q) := by
  simp [selectTemplate, readHead, readTail]

/-- What stands before the conditions of an aggregate. -/
def aggregateHead : Template :=
  if isDerived q then
    .text ("SELECT " ++ function.word ++ "(" ++
        (if column == "*" then "*" else d.identifier (unqualified column)) ++ ") AS "
        ++ d.identifier aggregateColumn ++ " FROM (") ::
      readHead d (derived q)
  else
    Template.text ("SELECT " ++ function.word ++ "(" ++ d.column column ++ ") AS "
      ++ d.identifier aggregateColumn ++ " FROM " ++ d.table q.table ++ joinsText d q.joins)

/-- What stands behind the group conditions of an aggregate over a derived table. -/
def aggregateTail : Template :=
  readTail d (derived q) ++ Template.text (") AS " ++ d.identifier "__agg")

/-- What stands behind the conditions of an aggregate. -/
def aggregateRest : Template :=
  if isDerived q then
    Template.text (groupsText d q.groups) ++ clause " HAVING " (havingsTemplate d q.havings)
      ++ aggregateTail d q
  else []

theorem aggregateTemplate_eq :
    aggregateTemplate d q function column
      = aggregateHead d q function column ++ clause " WHERE " (wheresTemplate d q.wheres)
        ++ aggregateRest d q := by
  rw [aggregateTemplate, aggregateHead, aggregateRest]
  split
  · rw [selectTemplate_eq]
    simp [aggregateTail, derived]
  · rw [List.append_nil]
    rfl

/-! ## Values -/

/-- Columns that are put in the place of stars bind nothing, as those do. -/
theorem values_columns_derived :
    ((derived q).columns.flatMap fun c => (columnTemplate d c).values)
      = q.columns.flatMap fun c => (columnTemplate d c).values := by
  have hnamed : ∀ columns : List SelectColumn, (∀ c ∈ columns, ∃ name, c = .column name) →
      (columns.flatMap fun c => (columnTemplate d c).values) = [] := by
    intro columns h
    rw [List.flatMap_eq_nil_iff]
    intro c hc
    obtain ⟨name, rfl⟩ := h c hc
    rfl
  simp only [derived]
  split
  · next h =>
      rw [Bool.and_eq_true, List.all_eq_true] at h
      rw [hnamed, hnamed]
      · intro c hc
        cases c with
        | column name => exact ⟨name, rfl⟩
        | raw sql vs => exact absurd (h.2 _ hc) Bool.false_ne_true
      · intro c hc
        obtain ⟨name, -, rfl⟩ := List.mem_map.1 hc
        exact ⟨name, rfl⟩
  · rfl

theorem bindings_compileSelect (q : Query) :
    ∃ columns orders, (compileSelect d q).bindings = columns ++ filterValues d q ++ orders := by
  have hread := values_selectTemplate d q
  rw [List.append_assoc (List.flatMap _ _)] at hread
  rw [compileSelect_eq]
  exact ⟨_, _, hread⟩

variable {q}

/-- Over a derived table, an aggregate binds what the read binds. -/
theorem bindings_of_derived (h : isDerived q = true) :
    (compileAggregate d q function column).bindings = (compileSelect d q).bindings := by
  rw [compileAggregate_eq, compileSelect_eq]
  show (aggregateTemplate d q function column).values = (selectTemplate d q).values
  rw [aggregateTemplate, if_pos h, Template.values_text_cons, Template.values_append,
    Template.values_text, List.append_nil, values_selectTemplate, values_selectTemplate,
    values_columns_derived]
  rfl

theorem bindings_of_direct (h : isDerived q = false) :
    (compileAggregate d q function column).bindings = (wheresTemplate d q.wheres).values := by
  rw [compileAggregate_eq, Template.statement, aggregateTemplate, if_neg (by rw [h]; exact Bool.false_ne_true), Template.values_text_cons,
    values_clause]

/-- All conditions are bound in the order of the read, unless the aggregate is taken directly and
    group conditions have values. -/
theorem filterValues_sublist_iff :
    (filterValues d q).Sublist (compileAggregate d q function column).bindings
      ↔ isDerived q = true ∨ (havingsTemplate d q.havings).values = [] := by
  cases h : isDerived q with
  | true =>
    obtain ⟨columns, orders, hread⟩ := bindings_compileSelect d q
    rw [bindings_of_derived d function column h, hread]
    refine iff_of_true ?_ (.inl rfl)
    exact (List.sublist_append_right columns _).trans (List.sublist_append_left _ orders)
  | false =>
    rw [bindings_of_direct d function column h, filterValues, or_iff_right Bool.false_ne_true]
    constructor
    · intro hsub
      have hlength := hsub.length_le
      rw [List.length_append] at hlength
      exact List.length_eq_zero_iff.1 (by omega)
    · intro hnone
      rw [hnone, List.append_nil]

/-! ## Text -/

theorem infix_wheres : clause " WHERE " (wheresTemplate d q.wheres)
    <:+: aggregateTemplate d q function column := by
  rw [aggregateTemplate_eq]
  exact List.infix_append _ _ _

theorem infix_havings (h : isDerived q = true) : clause " HAVING " (havingsTemplate d q.havings)
    <:+: aggregateTemplate d q function column := by
  rw [aggregateTemplate_eq, aggregateRest, if_pos h]
  exact (List.infix_append _ _ _).trans (List.suffix_append _ _).isInfix

theorem compileAggregate_without_wheres :
    compileAggregate d (q.without .wheres) function column = compileAggregate d q function column
      ↔ (wheresTemplate d q.wheres).isBlank = true := by
  have hpart := statement_append_eq_iff d (aggregateHead d q function column)
    (clause " WHERE " (wheresTemplate d q.wheres)) (aggregateRest d q)
  rw [isBlank_clause] at hpart
  rw [← hpart, eq_comm, compileAggregate_eq, compileAggregate_eq, aggregateTemplate_eq,
    aggregateTemplate_eq]
  show _ = (aggregateHead d q function column ++ [] ++ aggregateRest d q).statement d ↔ _
  rw [List.append_nil]

theorem compileAggregate_without_havings :
    compileAggregate d (q.without .havings) function column = compileAggregate d q function column
      ↔ isDerived q = false ∨ (havingsTemplate d q.havings).isBlank = true := by
  have hsame : isDerived (q.without .havings) = isDerived q := rfl
  rw [compileAggregate_eq, compileAggregate_eq, aggregateTemplate_eq, aggregateTemplate_eq,
    aggregateRest, aggregateRest, hsame]
  cases h : isDerived q with
  | false => exact iff_of_true rfl (.inl rfl)
  | true =>
    have hpart := statement_append_eq_iff d
      (aggregateHead d q function column ++ clause " WHERE " (wheresTemplate d q.wheres)
        ++ Template.text (groupsText d q.groups))
      (clause " HAVING " (havingsTemplate d q.havings)) (aggregateTail d q)
    rw [isBlank_clause] at hpart
    rw [or_iff_right Bool.true_eq_false.mp, ← hpart, eq_comm]
    simp only [if_true, ← List.append_assoc]
    show _ = (aggregateHead d q function column ++ clause " WHERE " (wheresTemplate d q.wheres)
      ++ Template.text (groupsText d q.groups) ++ [] ++ aggregateTail d q).statement d ↔ _
    rw [List.append_nil]

end Sql

/-- **An aggregate filters by every condition on rows, and by those on groups exactly if it is taken
    over a derived table.** Then it binds what the read of the query binds. Taken directly it is the
    aggregate of the query without its group conditions. Only a single condition that is an empty
    text makes no difference anywhere. -/
theorem aggregate_filters_iff (d : Dialect) (q : Query) (function : Aggregate) (column : String) :
    (∃ columns orders,
        (Sql.compileSelect d q).bindings = columns ++ Sql.filterValues d q ++ orders)
      ∧ ((∀ w ∈ q.wheres, w.condition.IsBound) → (∀ h ∈ q.havings, h.condition.IsBound) →
        Sql.filterValues d q = q.wheres.flatMap Where.values ++ q.havings.flatMap Having.values)
      ∧ ((Sql.filterValues d q).Sublist (Sql.compileAggregate d q function column).bindings
        ↔ Sql.isDerived q = true ∨ (Sql.havingsTemplate d q.havings).values = [])
      ∧ Sql.compileAggregate d q function column
        = (Sql.aggregateTemplate d q function column).statement d
      ∧ Sql.clause " WHERE " (Sql.wheresTemplate d q.wheres)
        <:+: Sql.aggregateTemplate d q function column
      ∧ (q.Drops (Sql.compileAggregate d · function column) .wheres
        ↔ ∃ k vs, q.wheres = [⟨k, .raw "" vs⟩])
      ∧ (Sql.isDerived q = true →
        (Sql.compileAggregate d q function column).bindings = (Sql.compileSelect d q).bindings
          ∧ Sql.clause " HAVING " (Sql.havingsTemplate d q.havings)
            <:+: Sql.aggregateTemplate d q function column)
      ∧ (q.Drops (Sql.compileAggregate d · function column) .havings
        ↔ q.Has .havings
          ∧ (Sql.isDerived q = false ∨ ∃ k vs, q.havings = [⟨k, .raw "" vs⟩])) := by
  refine ⟨Sql.bindings_compileSelect d q, Sql.filterValues_of_isBound d,
    Sql.filterValues_sublist_iff d function column, Sql.compileAggregate_eq d q function column,
    Sql.infix_wheres d function column, ?_,
    fun h => ⟨Sql.bindings_of_derived d function column h, Sql.infix_havings d function column h⟩, ?_⟩
  · rw [Query.Drops, Sql.compileAggregate_without_wheres, Sql.isBlank_wheresTemplate]
    constructor
    · rintro ⟨hhas, hnone | hempty⟩
      · exact absurd hnone hhas
      · exact hempty
    · rintro ⟨k, vs, hwheres⟩
      refine ⟨?_, .inr ⟨k, vs, hwheres⟩⟩
      rw [Query.Has, hwheres]
      exact List.cons_ne_nil _ _
  · refine and_congr_right fun hhas => ?_
    show Sql.compileAggregate d (q.without .havings) function column = _ ↔ _
    rw [Sql.compileAggregate_without_havings, Sql.isBlank_havingsTemplate, or_iff_right hhas]

/-- The number of rows of a query with conditions on groups, but without groups: no condition on groups
    is left in its statement. With groups, all are. -/
theorem aggregate_filters_iff_ungrouped :
    ∃ q grouped : Query,
      q = { table := "t", havings := [⟨.and, .compare "x" ">" (.int 1)⟩] }
      ∧ grouped = { q with groups := ["a"] }
      ∧ Sql.filterValues .postgres q = [.int 1]
      ∧ Sql.compileAggregate .postgres q .count "*"
        = ⟨"SELECT COUNT(*) AS \"aggregate\" FROM \"t\"", []⟩
      ∧ q.Drops (Sql.compileAggregate .postgres · .count "*") .havings
      ∧ ¬grouped.Drops (Sql.compileAggregate .postgres · .count "*") .havings := by
  have hstatement : Sql.compileAggregate .postgres
      { table := "t", havings := [⟨.and, .compare "x" ">" (.int 1)⟩] } .count "*"
      = ⟨"SELECT COUNT(*) AS \"aggregate\" FROM \"t\"", []⟩ := rfl
  let q : Query := { table := "t", havings := [⟨.and, .compare "x" ">" (.int 1)⟩] }
  let grouped : Query := { q with groups := ["a"] }
  have hdirect : Sql.isDerived q = false := by decide
  have hderived : Sql.isDerived grouped = true := by decide
  have hhas : q.Has .havings := List.cons_ne_nil _ _
  obtain ⟨-, hbound, -, -, -, -, -, hdrops⟩ := aggregate_filters_iff .postgres q .count "*"
  obtain ⟨-, -, -, -, -, -, -, hkeeps⟩ := aggregate_filters_iff .postgres grouped .count "*"
  refine ⟨q, grouped, rfl, rfl, ?_, hstatement, hdrops.2 ⟨hhas, .inl hdirect⟩, fun h => ?_⟩
  · refine (hbound (fun w hw => absurd hw List.not_mem_nil) fun h hh => ?_).trans rfl
    rw [List.mem_singleton.1 hh]
    exact trivial
  · obtain hfalse | ⟨k, vs, hempty⟩ := (hkeeps.1 h).2
    · exact absurd (hderived.symm.trans hfalse) Bool.true_eq_false.mp
    · exact nomatch (List.cons.inj hempty).1

end QueryKit
