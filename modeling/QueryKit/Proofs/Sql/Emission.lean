import QueryKit.Proofs.Sql.Clauses
import QueryKit.Proofs.Text.Numerals

set_option autoImplicit false

/-! # What emissions write

An emission asks for placeholders and puts them into its text itself, so nothing but the way it is
written keeps its text and its values together. Every emission writes what the template of its clause or
statement writes, and binds the values of this template in their order, be it with placeholders from any
index on, with markers or with literals (`Emitter.Emits`). So statements are those of their templates
(`compileSelect_eq` and its like). -/

namespace QueryKit

namespace Sql

/-! ## Runs -/

namespace Emit

variable {α β : Type}

@[simp] theorem run_pure (a : α) (bound : List Value) :
    StateT.run (pure a : Emit α) bound = (a, bound) := rfl

@[simp] theorem run_bind (first : Emit α) (next : α → Emit β) (bound : List Value) :
    StateT.run (first >>= next) bound
      = (next (first.run bound).1).run (first.run bound).2 := rfl

end Emit

/-! ## Texts of several templates -/

namespace Template

/-- The texts of templates whose holes are counted through. -/
def writeEach (place : Nat → Value → String) (start : Nat) : List Template → List String
  | [] => []
  | t :: ts => t.write place start :: writeEach place (start + t.values.length) ts

theorem join_writeEach (place : Nat → Value → String) (start : Nat) (ts : List Template) :
    String.join (writeEach place start ts) = write place start ts.flatten := by
  induction ts generalizing start with
  | nil => rfl
  | cons t rest ih => rw [writeEach, String.join_cons, ih, List.flatten_cons, write_append]

theorem intercalate_writeEach (separator : String) (place : Nat → Value → String) (start : Nat)
    (ts : List Template) :
    String.intercalate separator (writeEach place start ts)
      = write place start (join separator ts) := by
  induction ts generalizing start with
  | nil => rfl
  | cons t rest ih =>
      cases rest with
      | nil => simp [writeEach, join]
      | cons u rest =>
          have hcons := ih (start + t.values.length)
          rw [writeEach] at hcons
          rw [writeEach, writeEach, String.intercalate_cons_cons, hcons,
            show join separator (t :: u :: rest) = t ++ .text separator :: join separator (u :: rest)
              from rfl, write_append, write, String.append_assoc]

end Template

end Sql

/-! ## Literals -/

/-- Text with a sign or without is not empty if the text is not. -/
theorem Text.ofList_signed_ne_empty {negative : Bool} {body : List Char} (h : body ≠ []) :
    String.ofList (if negative then '-' :: body else body) ≠ "" := by
  rw [Ne, String.ofList_eq_empty_iff]
  cases negative with
  | true => exact List.cons_ne_nil _ _
  | false => exact h

theorem Decimal.toText_ne_empty (x : Decimal) : x.toText ≠ "" := by
  refine Text.ofList_signed_ne_empty ?_
  split
  · next hscale =>
    rw [hscale, Nat.sub_zero, List.take_length]
    exact Text.padded_ne_nil _ _
  · simp

theorem FloatLayout.writePositional_plain_ne_nil (ds : List Char) (e : Int) :
    plain.writePositional ds e ≠ [] := by
  rw [writePositional]
  split
  · simp
  · dsimp only
    split
    · intro h
      have hlength := congrArg List.length h
      simp only [List.length_append, List.length_replicate, List.length_nil] at hlength
      omega
    · simp

theorem FloatLayout.write_plain_ne_empty (x : Binary64) : plain.write x ≠ "" := by
  rw [write]
  split
  · decide
  · split <;> decide
  · refine Text.ofList_signed_ne_empty ?_
    split
    · exact writePositional_plain_ne_nil _ _
    · rw [writeDigits, show plain.isPositional _ = true from rfl, if_pos rfl]
      exact writePositional_plain_ne_nil _ _

theorem Dialect.literal_ne_empty (d : Dialect) (v : Value) : d.literal v ≠ "" := by
  cases v with
  | null => simp [literal]
  | bool b => cases b <;> simp [literal]
  | int n =>
    rw [literal, Int.toString_eq_repr, Int.repr_eq_if]
    split <;> simp
  | float x => exact FloatLayout.write_plain_ne_empty x
  | decimal x => exact x.toText_ne_empty
  | text s => simp [literal, textLiteral]
  | json j => simp [literal, textLiteral]
  | bytes data => cases d <;> simp [literal, bytesLiteral]
  | uuid u => simp [literal]
  | timestamp t => simp [literal]
  | array items => simp [literal]

namespace Sql

/-! ## Emissions of templates -/

namespace Emitter

/-- What stands for a value is not empty. -/
theorem place_ne_empty (e : Emitter) (index : Nat) (v : Value) : e.place index v ≠ "" := by
  rw [place]
  split
  · cases e.dialect <;> simp [Dialect.placeholder]
  · decide
  · exact e.dialect.literal_ne_empty v

/-- The index of the next placeholder. -/
def next (e : Emitter) (bound : List Value) : Nat :=
  e.offset + bound.length + 1

theorem next_append (e : Emitter) (bound vs : List Value) :
    e.next (bound ++ vs) = e.next bound + vs.length := by
  rw [next, next, List.length_append]
  omega

/-- The emission writes what the template writes, and binds its values. -/
def Emits (e : Emitter) (emission : Emit String) (t : Template) : Prop :=
  ∀ bound, emission.run bound = (t.write e.place (e.next bound), bound ++ t.values)

variable {e : Emitter}

theorem emits_text (s : String) : e.Emits (pure s) (Template.text s) := by
  intro bound
  rw [Emit.run_pure, Template.write_text, Template.values_text, List.append_nil]

theorem emits_empty : e.Emits (pure "") [] :=
  fun bound => Prod.ext rfl (List.append_nil bound).symm

theorem emits_bind (v : Value) : e.Emits (e.bind v) (Template.hole v) := by
  intro bound
  show (e.place (e.offset + (bound ++ [v]).length) v, bound ++ [v]) = _
  rw [List.length_append]
  exact Prod.ext (String.append_empty ..).symm rfl

/-- Emissions one after another count their placeholders through. -/
theorem run_mapM {α : Type} {emission : α → Emit String} {template : α → Template} (xs : List α)
    (h : ∀ x ∈ xs, e.Emits (emission x) (template x)) (bound : List Value) :
    (xs.mapM emission).run bound
      = (Template.writeEach e.place (e.next bound) (xs.map template),
          bound ++ xs.flatMap fun x => (template x).values) := by
  induction xs generalizing bound with
  | nil => exact Prod.ext rfl (List.append_nil _).symm
  | cons x rest ih =>
      obtain ⟨hx, hrest⟩ := List.forall_mem_cons.1 h
      rw [List.mapM_cons, Emit.run_bind, hx, Emit.run_bind, ih hrest, next_append, Emit.run_pure,
        List.flatMap_cons, List.append_assoc]
      rfl

theorem emits_join {α : Type} {emission : α → Emit String} {template : α → Template} (xs : List α)
    (h : ∀ x ∈ xs, e.Emits (emission x) (template x)) (separator : String) :
    e.Emits (return String.intercalate separator (← xs.mapM emission))
      (Template.join separator (xs.map template)) := by
  intro bound
  rw [Emit.run_bind, run_mapM xs h, Emit.run_pure, Template.intercalate_writeEach,
    Template.values_join, List.flatMap_map]

theorem emits_flatMap {α : Type} {emission : α → Emit String} {template : α → Template} (xs : List α)
    (h : ∀ x ∈ xs, e.Emits (emission x) (template x)) :
    e.Emits (do return String.join (← xs.mapM emission)) (xs.flatMap template) := by
  intro bound
  rw [Emit.run_bind, run_mapM xs h, Emit.run_pure, Template.join_writeEach, ← List.flatMap_def,
    Template.values_flatMap]

/-- Text around an emission. -/
theorem Emits.between {emission : Emit String} {t : Template} (h : e.Emits emission t)
    (before behind : String) :
    e.Emits (do return before ++ (← emission) ++ behind)
      (.text before :: (t ++ Template.text behind)) := by
  intro bound
  rw [Emit.run_bind, h bound, Emit.run_pure, Template.write, Template.write_append,
    Template.write_text, Template.values_text_cons, Template.values_append, Template.values_text,
    List.append_nil, String.append_assoc]

/-- Text behind which an emission comes. -/
theorem Emits.behind {emission : Emit String} {t : Template} (h : e.Emits emission t)
    (before : String) : e.Emits (do return before ++ (← emission)) (.text before :: t) := by
  intro bound
  rw [Emit.run_bind, h bound, Emit.run_pure, Template.write, Template.values_text_cons]

/-- Emissions one behind the other. -/
theorem Emits.append {first second : Emit String} {t u : Template} (h : e.Emits first t)
    (h' : e.Emits second u) : e.Emits (do return (← first) ++ (← second)) (t ++ u) := by
  intro bound
  rw [Emit.run_bind, h bound, Emit.run_bind, h', Emit.run_pure, next_append, Template.write_append,
    Template.values_append, List.append_assoc]

theorem emits_substituteFrom (span : Span) (cs : List Char) (vs : List Value) :
    e.Emits (e.substituteFrom span cs vs) (Template.fillFrom span cs vs) := by
  induction cs generalizing span vs with
  | nil => exact emits_empty
  | cons c rest ih =>
      unfold substituteFrom Template.fillFrom
      split
      · cases vs with
        | nil => exact (ih _ []).behind _
        | cons v vs => exact (emits_bind v).append (ih _ vs)
      · exact (ih _ vs).behind _

theorem emits_substitute (sql : String) (vs : List Value) :
    e.Emits (e.substitute sql vs) (Template.fill sql vs) :=
  emits_substituteFrom none sql.toList vs

/-! ## Conditions -/

theorem emits_comparison (column op : String) (v : Value) :
    e.Emits (e.comparison column op v) (compareTemplate e.dialect column op v) :=
  (emits_bind v).behind _

theorem emits_condition (c : Condition) :
    e.Emits (e.condition c) (conditionTemplate e.dialect c) := by
  cases c with
  | compare column op v => exact emits_comparison column op v
  | oneOf column vs negated =>
      intro bound
      rw [condition, Emit.run_bind, run_mapM vs fun v _ => emits_bind v, Emit.run_pure,
        conditionTemplate]
      simp [Template.intercalate_writeEach, Template.values_join, String.append_assoc,
        List.flatMap_map]
  | isNull column negated => exact emits_text _
  | between column low high negated =>
      intro bound
      rw [condition, Emit.run_bind, emits_bind, Emit.run_bind, emits_bind, next_append, Emit.run_pure,
        conditionTemplate]
      simp [String.append_assoc]
  | raw sql vs => exact emits_substitute sql vs
  | nested sql vs => exact (emits_substitute sql vs).between "(" ")"
  | compareColumns left op right => exact emits_text _

theorem emits_groupCondition (c : GroupCondition) :
    e.Emits (e.groupCondition c) (groupConditionTemplate e.dialect c) := by
  cases c with
  | compare column op v => exact emits_comparison column op v
  | raw sql vs => exact emits_substitute sql vs

theorem emits_connected {α : Type} (connective : α → Connective) {emission : α → Emit String}
    {template : α → Template} (h : ∀ x, e.Emits (emission x) (template x)) (xs : List α) :
    e.Emits (Emit.connected (xs.map fun x => (connective x, emission x)))
      (connected (xs.map fun x => (connective x, template x))) := by
  cases xs with
  | nil => exact emits_empty
  | cons x rest =>
      have hothers : ∀ y, e.Emits (do return " " ++ (connective y).word ++ " " ++ (← emission y))
          (.text (" " ++ (connective y).word ++ " ") :: template y) := fun y => (h y).behind _
      rw [List.map_cons, List.map_cons, Emit.connected, List.mapM_map, connected, List.flatMap_map]
      exact (h x).append (emits_flatMap rest fun y _ => hothers y)

theorem emits_wheres (wheres : List Where) :
    e.Emits (e.wheres wheres) (wheresTemplate e.dialect wheres) :=
  emits_connected Where.connective (fun w => emits_condition w.condition) wheres

theorem emits_havings (havings : List Having) :
    e.Emits (e.havings havings) (havingsTemplate e.dialect havings) :=
  emits_connected Having.connective (fun h => emits_groupCondition h.condition) havings

/-- A template writes its words exactly if it writes anything behind them. -/
theorem headed_write (words : String) (t : Template) (start : Nat) :
    headed words (t.write e.place start) = (clause words t).write e.place start := by
  rw [headed, clause]
  cases hblank : t.isBlank with
  | true =>
      rw [(Template.write_eq_empty_iff e.place_ne_empty start t).2 hblank]
      rfl
  | false =>
      have hne : t.write e.place start ≠ "" := fun h => by
        rw [(Template.write_eq_empty_iff e.place_ne_empty start t).1 h] at hblank
        cases hblank
      rw [if_neg (by simpa using hne), if_neg Bool.false_ne_true, Template.write]

theorem Emits.headed {emission : Emit String} {t : Template} (h : e.Emits emission t)
    (words : String) : e.Emits (do return Sql.headed words (← emission)) (clause words t) := by
  intro bound
  rw [Emit.run_bind, h bound, Emit.run_pure, headed_write, values_clause]

/-! ## Reads -/

theorem emits_column (c : SelectColumn) : e.Emits (e.column c) (columnTemplate e.dialect c) := by
  cases c with
  | column name => exact emits_text _
  | raw sql vs => exact emits_substitute sql vs

theorem emits_order (o : Order) : e.Emits (e.order o) (orderTemplate e.dialect o) := by
  cases o with
  | column name direction => exact emits_text _
  | raw sql vs => exact emits_substitute sql vs

theorem emits_orders (orders : List Order) :
    e.Emits (e.orders orders) (ordersTemplate e.dialect orders) := by
  cases orders with
  | nil => exact emits_empty
  | cons o rest =>
      exact (emits_join (o :: rest) (fun o _ => emits_order o) ", ").behind " ORDER BY "

theorem emits_select (q : Query) : e.Emits (e.select q) (selectTemplate e.dialect q) := by
  intro bound
  rw [select, Emit.run_bind, run_mapM q.columns fun c _ => emits_column c, Emit.run_bind,
    emits_wheres, Emit.run_bind, emits_havings, Emit.run_bind, emits_orders, Emit.run_pure,
    selectTemplate]
  simp [headed_write, next_append, Template.intercalate_writeEach, Template.values_join,
    String.append_assoc, List.flatMap_map, Nat.add_assoc]

/-! ## Emissions that fail -/

/-- Writes and binds what the template does, if there is one, and fails if there is an error. -/
def EmitsOrFails (e : Emitter) (emission : ExceptT Error Emit String) :
    Except Error Template → Prop
  | .ok t => ∀ bound, emission.run.run bound
      = (.ok (t.write e.place (e.next bound)), bound ++ t.values)
  | .error err => ∀ bound, (emission.run.run bound).1 = .error err

theorem run_lift_bind {α β : Type} (emission : Emit α) (next : α → ExceptT Error Emit β)
    (bound : List Value) :
    ((emission : ExceptT Error Emit α) >>= next).run.run bound
      = (next (emission.run bound).1).run.run (emission.run bound).2 := rfl

theorem run_pure_ok {α : Type} (a : α) (bound : List Value) :
    (pure a : ExceptT Error Emit α).run.run bound = (.ok a, bound) := rfl

theorem liftExcept_ok_bind {α β : Type} (a : α) (next : α → ExceptT Error Emit β) :
    (liftExcept (.ok a : Except Error α) >>= next) = next a := rfl

theorem emitsOrFails_throw (err : Error) : e.EmitsOrFails (throw err) (.error err) :=
  fun _ => rfl

theorem Emits.orFails {emission : Emit String} {t : Template} (h : e.Emits emission t) :
    e.EmitsOrFails emission (.ok t) := by
  intro bound
  show (Except.ok (emission.run bound).1, (emission.run bound).2) = _
  rw [h bound]

/-- What is checked first fails first. -/
theorem EmitsOrFails.check {α : Type} {result : Except Error α} {next : α → ExceptT Error Emit String}
    {next' : α → Except Error Template} (h : ∀ a, e.EmitsOrFails (next a) (next' a)) :
    e.EmitsOrFails (liftExcept result >>= next) (result >>= next') := by
  cases result with
  | error err => exact emitsOrFails_throw err
  | ok a => exact h a

/-- Text in front of which an emission comes. -/
theorem EmitsOrFails.before {emission : ExceptT Error Emit String} {result : Except Error Template}
    (h : e.EmitsOrFails emission result) (behind : String) :
    e.EmitsOrFails (do return (← emission) ++ behind)
      (result.map fun t => t ++ Template.text behind) := by
  have hrun : ∀ bound, ((emission >>= fun sql => pure (sql ++ behind)).run.run bound)
      = ((emission.run.run bound).1.map (· ++ behind), (emission.run.run bound).2) := by
    intro bound
    rw [ExceptT.run_bind, Emit.run_bind]
    rcases emission.run.run bound with ⟨_ | _, _⟩ <;> rfl
  cases result with
  | error err =>
      intro bound
      rw [hrun, h bound]
      rfl
  | ok t =>
      intro bound
      rw [hrun, h bound, Template.write_append, Template.write_text, Template.values_append,
        Template.values_text, List.append_nil]
      rfl

/-! ## Writes -/

theorem emits_row (row : Row) : e.Emits (e.row row) (rowTemplate row) :=
  (emits_join row.values (fun v _ => emits_bind v) ", ").between "(" ")"

theorem emits_rows (rows : List Row) :
    e.Emits (e.rows rows) (Template.join ", " (rows.map rowTemplate)) :=
  emits_join rows (fun row _ => emits_row row) ", "

theorem emitsOrFails_insert (verb : String) (q : Query) (rows : List Row) :
    e.EmitsOrFails (e.insert verb q rows) (insertTemplate e.dialect verb q rows) := by
  cases rows with
  | nil => exact emitsOrFails_throw _
  | cons first rest =>
      rw [insert, insertTemplate]
      dsimp only
      split
      · split
        · exact (emits_text _).orFails
        · exact emitsOrFails_throw _
      · cases firstDifferent? first.columns rest with
        | some row => exact emitsOrFails_throw _
        | none => exact ((emits_rows (first :: rest)).behind _).orFails

theorem emitsOrFails_insertReturning (q : Query) (row : Row) :
    e.EmitsOrFails (e.insertReturning q row) (insertReturningTemplate e.dialect q row) :=
  (emitsOrFails_insert insertVerb q [row]).before _

theorem emitsOrFails_upsert (q : Query) (rows : List Row) (u : Upsert) :
    e.EmitsOrFails (e.upsert q rows u) (upsertTemplate e.dialect q rows u) := by
  rw [upsert, upsertTemplate]
  refine .check fun conflict => ?_
  exact (emitsOrFails_insert conflict.verb q rows).before _

theorem emits_assignment (column : String) (v : Value) :
    e.Emits (e.assignment column v) (Sql.assignment e.dialect column v) :=
  (emits_bind v).behind _

theorem emits_assignments (values : List (String × Value)) :
    e.Emits (e.assignments values)
      (Template.join ", " (values.map fun (c, v) => Sql.assignment e.dialect c v)) :=
  emits_join values (fun (c, v) _ => emits_assignment c v) ", "

theorem emitsOrFails_update (q : Query) (values : List (String × Value)) :
    e.EmitsOrFails (e.update q values) (updateTemplate e.dialect q values) := by
  rw [update, updateTemplate]
  split
  · exact emitsOrFails_throw _
  · refine .check fun _ => ?_
    cases mutationLimit e.dialect q with
    | error err => exact fun _ => rfl
    | ok limit =>
        intro bound
        rw [run_lift_bind, emits_assignments, run_lift_bind, emits_wheres, next_append, headed_write,
          liftExcept_ok_bind, run_pure_ok]
        simp [String.append_assoc]

theorem emitsOrFails_delete (q : Query) :
    e.EmitsOrFails (e.delete q) (deleteTemplate e.dialect q) := by
  rw [delete, deleteTemplate]
  refine .check fun _ => ?_
  cases mutationLimit e.dialect q with
  | error err => exact fun _ => rfl
  | ok limit =>
      exact ((emits_wheres q.wheres).headed " WHERE ").between _ limit |>.orFails

/-! ## Aggregates and lateral reads -/

theorem emits_aggregate (q : Query) (function : Aggregate) (column : String) :
    e.Emits (e.aggregate q function column) (aggregateTemplate e.dialect q function column) := by
  rw [aggregate, aggregateTemplate]
  split
  · intro bound
    rw [Emit.run_bind, emits_select, Emit.run_pure]
    simp [String.append_assoc]
  · exact ((emits_wheres q.wheres).headed " WHERE ").behind _

theorem emits_anyRow (q : Query) : e.Emits (e.anyRow q) (existsTemplate e.dialect q) := by
  intro bound
  rw [anyRow, Emit.run_bind, emits_select, Emit.run_pure, existsTemplate]
  simp [String.append_assoc]

theorem emitsOrFails_lateral (q : Query) (foreignKey : String) (ids : List Value) :
    e.EmitsOrFails (e.lateral q foreignKey ids) (lateralTemplate? e.dialect q foreignKey ids) := by
  rw [lateral, lateralTemplate?]
  split
  · rw [List.isEmpty_map]
    split
    · exact emitsOrFails_throw _
    · intro bound
      rw [run_lift_bind, emits_bind, run_lift_bind, emits_select, next_append, run_pure_ok,
        lateralTemplate]
      simp [String.append_assoc]
  · exact emitsOrFails_throw _

end Emitter

/-! ## Statements -/

theorem Emitter.Emits.statement {e : Emitter} {emission : Emit String} {t : Template}
    (h : e.Emits emission t) : emission.statement = ⟨t.write e.place (e.offset + 1), t.values⟩ := by
  rw [Emit.statement, h []]
  rfl

theorem Emitter.EmitsOrFails.statement? {d : Dialect} {emission : ExceptT Error Emit String}
    {result : Except Error Template} (h : EmitsOrFails { dialect := d } emission result) :
    Emit.statement? emission = result.map (·.statement d) := by
  cases result with
  | error err =>
      have hrun := h []
      rw [Emit.statement?]
      rcases hended : emission.run.run [] with ⟨ended, bindings⟩
      rw [hended] at hrun
      cases hrun
      rfl
  | ok t =>
      rw [Emit.statement?, h []]
      rfl

theorem compileSelect_eq (d : Dialect) (q : Query) :
    compileSelect d q = (selectTemplate d q).statement d :=
  (Emitter.emits_select q).statement

theorem inlineSelect_eq (d : Dialect) (q : Query) :
    inlineSelect d q = (selectTemplate d q).write (fun _ v => d.literal v) 1 := by
  rw [inlineSelect, (Emitter.emits_select q).statement]
  rfl

theorem fragment_eq (d : Dialect) (wheres : List Where) :
    fragment d wheres = ⟨(wheresTemplate d wheres).marked, (wheresTemplate d wheres).values⟩ :=
  (Emitter.emits_wheres wheres).statement

theorem group_eq (d : Dialect) (wheres : List Where) :
    group d wheres = .nested (wheresTemplate d wheres).marked (wheresTemplate d wheres).values := by
  rw [group, fragment_eq]

theorem compileWheres_eq (d : Dialect) (offset : Nat) (wheres : List Where) :
    compileWheres d offset wheres
      = ⟨(wheresTemplate d wheres).numbered d (offset + 1), (wheresTemplate d wheres).values⟩ :=
  (Emitter.emits_wheres wheres).statement

theorem compileHavings_eq (d : Dialect) (offset : Nat) (havings : List Having) :
    compileHavings d offset havings
      = ⟨(havingsTemplate d havings).numbered d (offset + 1), (havingsTemplate d havings).values⟩ :=
  (Emitter.emits_havings havings).statement

theorem compileInsert_eq (d : Dialect) (q : Query) (rows : List Row) :
    compileInsert d q rows = (insertTemplate d insertVerb q rows).map (·.statement d) :=
  (Emitter.emitsOrFails_insert insertVerb q rows).statement?

theorem compileInsertReturning_eq (d : Dialect) (q : Query) (row : Row) :
    compileInsertReturning d q row = (insertReturningTemplate d q row).map (·.statement d) :=
  (Emitter.emitsOrFails_insertReturning q row).statement?

theorem compileUpsert_eq (d : Dialect) (q : Query) (rows : List Row) (u : Upsert) :
    compileUpsert d q rows u = (upsertTemplate d q rows u).map (·.statement d) :=
  (Emitter.emitsOrFails_upsert q rows u).statement?

theorem compileUpdate_eq (d : Dialect) (q : Query) (values : List (String × Value)) :
    compileUpdate d q values = (updateTemplate d q values).map (·.statement d) :=
  (Emitter.emitsOrFails_update q values).statement?

theorem compileDelete_eq (d : Dialect) (q : Query) :
    compileDelete d q = (deleteTemplate d q).map (·.statement d) :=
  (Emitter.emitsOrFails_delete q).statement?

theorem compileAggregate_eq (d : Dialect) (q : Query) (function : Aggregate) (column : String) :
    compileAggregate d q function column = (aggregateTemplate d q function column).statement d :=
  (Emitter.emits_aggregate q function column).statement

theorem compileExists_eq (d : Dialect) (q : Query) :
    compileExists d q = (existsTemplate d q).statement d :=
  (Emitter.emits_anyRow q).statement

theorem compileLateral_eq (d : Dialect) (q : Query) (foreignKey : String) (ids : List Value) :
    compileLateral d q foreignKey ids = (lateralTemplate? d q foreignKey ids).map (·.statement d) :=
  (Emitter.emitsOrFails_lateral q foreignKey ids).statement?

theorem eq_of_compileLateral {d : Dialect} {q : Query} {foreignKey : String} {ids : List Value}
    {statement : Statement} (h : compileLateral d q foreignKey ids = .ok statement) :
    statement = (lateralTemplate d q foreignKey (ids.map Value.canonical)).statement d := by
  rw [compileLateral_eq, lateralTemplate?] at h
  split at h
  · split at h
    · cases h
    · cases h
      rfl
  · cases h

end Sql

end QueryKit
