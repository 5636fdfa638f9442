import QueryKit.Proofs.Builder.Snapshot
import QueryKit.Proofs.Sql.Blotted

set_option autoImplicit false

/-! # Calls with their values blotted out

Of the values in its calls, a builder looks at nothing but how many there are and, where a column is
compared with one, whether it is null. So calls that are the same with their values blotted out have
the same fault or describe statements of the same text (`text_of_blotted_eq`): whatever is bound, it
does not reach the text. -/

namespace QueryKit

/-! ## Blotted calls -/

/-- A value of which it can only be seen whether it is null. -/
def Value.blot (v : Value) : Value :=
  if v.isNull then .null else .bool true

mutual

/-- The call with its values blotted out: of a value that is compared it is left whether it is null,
    of a list of values how many there are, and of every other value nothing. -/
def Call.blotted : Call → Call
  | .selectRaw sql values => .selectRaw sql (Value.blots values)
  | .compare c column op value => .compare c column op value.blot
  | .whereGroup c body => .whereGroup c (blottedCalls body)
  | .oneOf c column values negated => .oneOf c column (Value.blots values) negated
  | .between c column _ _ negated => .between c column .null .null negated
  | .whereRaw c sql values => .whereRaw c sql (Value.blots values)
  | .having c column op _ => .having c column op .null
  | .havingRaw sql values => .havingRaw sql (Value.blots values)
  | .orderByRaw sql values => .orderByRaw sql (Value.blots values)
  | .scope name body => .scope name (blottedCalls body)
  | call => call

/-- Calls with their values blotted out. -/
def blottedCalls : List Call → List Call
  | [] => []
  | call :: rest => call.blotted :: blottedCalls rest

end

theorem blottedCalls_eq_map (calls : List Call) : blottedCalls calls = calls.map Call.blotted := by
  induction calls with
  | nil => rfl
  | cons call rest ih => rw [blottedCalls, ih, List.map_cons]

/-! ## Faults -/

theorem markerFault?_blots (sql : String) (values : List Value) :
    markerFault? sql (Value.blots values) = markerFault? sql values := by
  rw [markerFault?, Value.length_blots]
  rfl

theorem faultOf?_map_blotted (calls : List Call)
    (h : ∀ call ∈ calls, call.blotted.fault? = call.fault?) :
    faultOf? (calls.map Call.blotted) = faultOf? calls := by
  induction calls with
  | nil => rfl
  | cons call rest ih =>
      rw [List.map_cons, faultOf?, faultOf?, h call (List.mem_cons_self ..),
        ih fun c hc => h c (List.mem_cons_of_mem _ hc)]

/-- No fault depends on the values, apart from how many there are. -/
theorem Call.fault?_blotted (call : Call) : call.blotted.fault? = call.fault? := by
  induction call using Call.body_induction with
  | step call ih =>
      cases call with
      | selectRaw sql values | whereRaw k sql values | havingRaw sql values | orderByRaw sql values =>
          simp only [blotted, fault?, markerFault?_blots]
      | whereGroup k body =>
          rw [blotted, fault?, fault?, blottedCalls_eq_map]
          exact faultOf?_map_blotted body ih
      | _ => rfl

theorem faultOf?_blottedCalls (calls : List Call) : faultOf? (blottedCalls calls) = faultOf? calls := by
  rw [blottedCalls_eq_map]
  exact faultOf?_map_blotted calls fun call _ => call.fault?_blotted

/-! ## Active scopes -/

namespace Agenda

/-- The entry of a scope with the values of its calls blotted out. -/
def blottedEntry (entry : String × List Call) : String × List Call :=
  (entry.1, blottedCalls entry.2)

/-- The agenda with the values of its calls blotted out. -/
def blotted (a : Agenda) : Agenda :=
  { a with scopes := a.scopes.map blottedEntry }

theorem map_fst_blotted (a : Agenda) : a.blotted.scopes.map Prod.fst = a.scopes.map Prod.fst := by
  rw [blotted, List.map_map]
  rfl

theorem note_blotted (a : Agenda) (call : Call) :
    a.blotted.note call.blotted = (a.note call).blotted := by
  cases call with
  | scope name body =>
      simp only [Call.blotted, note, blotted, List.filter_map, List.map_append, List.map_cons,
        List.map_nil]
      rfl
  | withoutScopes => simp only [Call.blotted, note, map_fst_blotted]; rfl
  | _ => rfl

theorem foldl_note_blotted (a : Agenda) (calls : List Call) :
    (blottedCalls calls).foldl note a.blotted = (calls.foldl note a).blotted := by
  induction calls generalizing a with
  | nil => rfl
  | cons call rest ih => rw [blottedCalls, List.foldl_cons, List.foldl_cons, note_blotted, ih]

theorem active_blotted (a : Agenda) (scopes : List (String × List Call)) :
    a.blotted.active (scopes.map blottedEntry) = (a.active scopes).map blottedCalls := by
  induction scopes generalizing a with
  | nil => rfl
  | cons entry rest ih =>
      obtain ⟨name, body⟩ := entry
      rw [List.map_cons, blottedEntry, active, active, foldl_note_blotted, ih, ih]
      show (if a.removed.contains name then _ else _) = _
      split <;> rfl

end Agenda

theorem activeScopes_blotted (calls : List Call) :
    activeScopes (blottedCalls calls) = (activeScopes calls).map blottedCalls := by
  have hnote : (blottedCalls calls).foldl Agenda.note {} = (calls.foldl Agenda.note {}).blotted :=
    Agenda.foldl_note_blotted {} calls
  rw [activeScopes, hnote]
  exact Agenda.active_blotted { removed := (calls.foldl Agenda.note {}).removed } _

/-! ## Conditions of calls -/

theorem blotted_comparison (column op : String) (v : Value) :
    (Builder.comparison column op v.blot).blotted = (Builder.comparison column op v).blotted := by
  have hnull : v.blot.isNull = v.isNull := by
    cases v <;> rfl
  simp only [Builder.comparison, hnull]
  split
  · rfl
  · split <;> rfl

theorem blotted_clausesOf (d : Dialect) (calls : List Call)
    (h : ∀ call ∈ calls, (call.blotted.clauses.toWheres d).map Where.blotted
      = (call.clauses.toWheres d).map Where.blotted) :
    ((clausesOf (calls.map Call.blotted)).toWheres d).map Where.blotted
      = ((clausesOf calls).toWheres d).map Where.blotted := by
  induction calls with
  | nil => rfl
  | cons call rest ih =>
      rw [List.map_cons, clausesOf, clausesOf, Filter.toWheres_append, Filter.toWheres_append,
        List.map_append, List.map_append, h call (List.mem_cons_self ..),
        ih fun c hc => h c (List.mem_cons_of_mem _ hc)]

theorem blotted_grouped (d : Dialect) (k : Connective) {f g : Filter}
    (h : (f.toWheres d).map Where.blotted = (g.toWheres d).map Where.blotted) :
    ((Filter.grouped k f).toWheres d).map Where.blotted
      = ((Filter.grouped k g).toWheres d).map Where.blotted := by
  have hlength : f.length = g.length := by
    have := congrArg List.length h
    simpa using this
  cases f with
  | nil =>
      rw [List.length_nil, eq_comm, List.length_eq_zero_iff] at hlength
      rw [hlength]
  | cons c rest =>
      cases g with
      | nil => simp at hlength
      | cons c' rest' =>
          -- the texts of both groups are made of the same conditions but for their values
          have hgroup := (Sql.blotted_group d (Filter.toWheres d (c :: rest))).trans
            ((congrArg (Sql.group d) h).trans (Sql.blotted_group d _).symm)
          simp only [Filter.grouped, Filter.toWheres, List.map_cons, List.map_nil, Clause.toWhere_group,
            Where.blotted] at hgroup ⊢
          rw [hgroup]

/-- The conditions that calls add differ in their values only. -/
theorem Call.blotted_clauses (d : Dialect) (call : Call) :
    (call.blotted.clauses.toWheres d).map Where.blotted
      = (call.clauses.toWheres d).map Where.blotted := by
  induction call using Call.body_induction with
  | step call ih =>
      cases call with
      | whereGroup k body =>
          rw [blotted, clauses, clauses, blottedCalls_eq_map]
          exact blotted_grouped d k (blotted_clausesOf d body ih)
      | compare k column op value =>
          exact congrArg (fun c => [Where.mk k c]) (blotted_comparison column _ value)
      | oneOf k column values negated =>
          have hcondition := (Condition.oneOf column values negated).blotted_blotted
          exact congrArg (fun c => [Where.mk k c]) hcondition
      | whereRaw k sql values =>
          have hcondition := (Condition.raw sql values).blotted_blotted
          exact congrArg (fun c => [Where.mk k c]) hcondition
      | _ => rfl

/-! ## Drafts -/

/-- The drafts differ in their values only. -/
structure Draft.Alike (d d' : Draft) : Prop extends Query.Alike d.toQuery d'.toQuery where
  dialect : d.dialect = d'.dialect

namespace Draft.Alike

variable {d d' : Draft}

theorem columns_dropStar (d : Draft) :
    d.dropStar.columns.map SelectColumn.blotted
      = match d.columns.map SelectColumn.blotted with
        | [c] => if c.isStar then [] else [c]
        | columns => columns := by
  unfold Draft.dropStar
  rcases hcolumns : d.columns with _ | ⟨c, _ | ⟨second, rest⟩⟩
  · simp [hcolumns]
  · have hstar : c.blotted.isStar = c.isStar := by
      cases c <;> rfl
    simp only [List.map_cons, List.map_nil, hstar]
    split
    · rfl
    · simp [hcolumns]
  · simp [hcolumns]

theorem dropStar (h : d.Alike d') : d.dropStar.Alike d'.dropStar := by
  rw [Draft.dropStar_eq d, Draft.dropStar_eq d']
  refine { h with columns := ?_ }
  show d.dropStar.columns.map _ = d'.dropStar.columns.map _
  rw [columns_dropStar, h.columns, columns_dropStar]

theorem ordersReference (h : d.Alike d') (column : String) :
    d.ordersReference column = d'.ordersReference column := by
  have hblotted : ∀ orders : List Order, orders.any (·.references column)
      = (orders.map Order.blotted).any (·.references column) := by
    intro orders
    rw [List.any_map]
    congr 1
    funext o
    cases o <;> rfl
  rw [Query.ordersReference, hblotted, h.orders, ← hblotted]
  rfl

theorem ensureKeyOrder (h : d.Alike d') : d.ensureKeyOrder.Alike d'.ensureKeyOrder := by
  have hkey : d.keyOrder = d'.keyOrder := by
    rw [Draft.keyOrder, h.joins, h.primaryKey, h.table]
    rfl
  have horders : d.ensureKeyOrder.orders.map Order.blotted
      = d'.ensureKeyOrder.orders.map Order.blotted := by
    unfold Draft.ensureKeyOrder
    rw [h.ordersReference, h.primaryKey, hkey]
    split
    · exact h.orders
    · simp only [List.map_append, h.orders]
  rw [Draft.ensureKeyOrder_eq d, Draft.ensureKeyOrder_eq d']
  exact { h with orders := horders }

theorem addWheres (h : d.Alike d') {wheres wheres' : List Where}
    (hwheres : wheres.map Where.blotted = wheres'.map Where.blotted) :
    (d.addWheres wheres).Alike (d'.addWheres wheres') := by
  rw [Draft.addWheres_eq, Draft.addWheres_eq]
  exact { h with wheres := by simp only [List.map_append, h.wheres, hwheres] }

theorem addColumn (h : d.Alike d') {c c' : SelectColumn} (hc : c.blotted = c'.blotted) :
    (d.addColumn c).Alike (d'.addColumn c') :=
  { h with columns := by simp only [Draft.addColumn, List.map_append, List.map_cons, h.columns, hc] }

theorem addHaving (h : d.Alike d') {x x' : Having} (hx : x.blotted = x'.blotted) :
    (d.addHaving x).Alike (d'.addHaving x') :=
  { h with havings := by simp only [Draft.addHaving, List.map_append, List.map_cons, h.havings, hx] }

theorem addOrder (h : d.Alike d') {o o' : Order} (ho : o.blotted = o'.blotted) :
    (d.addOrder o).Alike (d'.addOrder o') :=
  { h with orders := by simp only [Draft.addOrder, List.map_append, List.map_cons, h.orders, ho] }

theorem content (h : d.Alike d') : d.content.Alike d'.content :=
  { h with }

/-- What calls that differ in their values make of drafts that differ in their values only, differs in
    its values only. -/
theorem afterCall (h : d.Alike d') (call : Call) :
    (d.afterCall call.blotted).Alike (d'.afterCall call) := by
  have hclauses : (call.blotted.clauses.toWheres d.dialect).map Where.blotted
      = (call.clauses.toWheres d'.dialect).map Where.blotted := by
    rw [call.blotted_clauses, h.dialect]
  cases call with
  | primaryKey column => exact { h with primaryKey := rfl }
  | select columns => exact { h with columns := rfl }
  | addSelect column => exact (h.dropStar.addColumn rfl).content
  | selectRaw sql values =>
      exact (h.dropStar.addColumn (SelectColumn.raw sql values).blotted_blotted).content
  | distinct => exact { h with distinct := rfl }
  | compare | whereGroup | oneOf | isNull | between | whereRaw | compareColumns =>
      exact (h.addWheres hclauses).content
  | join kind table first op second =>
      exact { h with joins := congrArg (· ++ [_]) h.joins }
  | crossJoin table => exact { h with joins := congrArg (· ++ [_]) h.joins }
  | groupBy columns => exact { h with groups := congrArg (· ++ columns) h.groups }
  | having k column op value =>
      exact (h.addHaving
        (Having.mk k (.compare column ((operator? op).getD op) value)).blotted_blotted).content
  | havingRaw sql values =>
      exact (h.addHaving (Having.mk .and (.raw sql values)).blotted_blotted).content
  | orderBy column direction => exact (h.addOrder rfl).content
  | orderByRaw sql values =>
      exact (h.addOrder (Order.raw sql values).blotted_blotted).content
  | limit count => exact { h with limit := rfl }
  | offset count => exact { h with offset := rfl }
  | paginate page =>
      have hpage : Draft.Alike
          { d with limit := some page.size, offset := some page.offset }
          { d' with limit := some page.size, offset := some page.offset } :=
        { h with limit := rfl, offset := rfl }
      exact hpage.ensureKeyOrder.content
  | lock kind => exact { h with lock := rfl }
  | scope | withoutScope | withoutScopes => exact h.content

theorem after (h : d.Alike d') (calls : List Call) :
    (d.after (blottedCalls calls)).Alike (d'.after calls) := by
  induction calls generalizing d d' with
  | nil => exact h
  | cons call rest ih => exact ih (h.afterCall call)

theorem length_wheres (h : d.Alike d') : d.wheres.length = d'.wheres.length := by
  have hlength := congrArg List.length h.wheres
  rwa [List.length_map, List.length_map] at hlength

theorem hasOr (h : d.Alike d') : d.hasOr = d'.hasOr := by
  have hblotted : ∀ wheres : List Where, (wheres.any fun w => w.connective == .or)
      = (wheres.map Where.blotted).any fun w => w.connective == .or := by
    intro wheres
    rw [List.any_map]
    rfl
  rw [Draft.hasOr, hblotted, h.wheres, ← hblotted]
  rfl

theorem splitWheres (h : d.Alike d') (count : Nat) :
    (d.splitWheres count).Alike (d'.splitWheres count) := by
  have hgroup : ∀ {wheres wheres' : List Where},
      wheres.map Where.blotted = wheres'.map Where.blotted →
        (Sql.group d.dialect wheres).blotted = (Sql.group d'.dialect wheres').blotted := by
    intro wheres wheres' hwheres
    rw [Sql.blotted_group, hwheres, h.dialect, Sql.blotted_group]
  have htake := hgroup (by rw [List.map_take, h.wheres, ← List.map_take] :
    (d.wheres.take count).map Where.blotted = (d'.wheres.take count).map Where.blotted)
  have hdrop := hgroup (by rw [List.map_drop, h.wheres, ← List.map_drop] :
    (d.wheres.drop count).map Where.blotted = (d'.wheres.drop count).map Where.blotted)
  exact { h with
    wheres := by
      simp only [Draft.splitWheres, List.map_cons, List.map_nil, Where.blotted, htake, hdrop] }

theorem isolate (h : d.Alike d') (count : Nat) : (d.isolate count).Alike (d'.isolate count) := by
  rw [Draft.isolate, Draft.isolate, h.length_wheres, h.hasOr]
  split
  · exact h.splitWheres count
  · exact h

theorem snapshot (h : d.Alike d') : d.snapshot.Alike d'.snapshot := by
  simp only [Draft.snapshot, h.isPaginated]
  split
  · exact { h.ensureKeyOrder with }
  · exact { h with }

end Draft.Alike

/-! ## Statements -/

theorem appliedCalls_blotted (calls : List Call) :
    appliedCalls (blottedCalls calls) = blottedCalls (appliedCalls calls) := by
  have hmap : blottedCalls = List.map Call.blotted := funext blottedCalls_eq_map
  rw [appliedCalls, activeScopes_blotted, appliedCalls, hmap, List.map_append, List.map_flatten]

section Run

variable (d : Dialect) (table : String)

theorem queryOf_blottedCalls (calls : List Call) :
    (queryOf d table (blottedCalls calls)).Alike (queryOf d table calls) := by
  have hnew : (Builder.new d table).draft.Alike (Builder.new d table).draft :=
    { table := rfl, primaryKey := rfl, columns := rfl, distinct := rfl, wheres := rfl, joins := rfl
      groups := rfl, havings := rfl, orders := rfl, limit := rfl, offset := rfl, lock := rfl
      dialect := rfl }
  have hown := hnew.after calls
  have hall := hnew.after (appliedCalls calls)
  rw [← appliedCalls_blotted, appliedCalls, appliedCalls, Draft.after_append, Draft.after_append]
    at hall
  simp only [queryOf, hown.length_wheres]
  exact (hall.isolate _).snapshot

/-- The text of a request does not depend on the values in the calls that it is made of. -/
theorem sql_blottedCalls (d' : Dialect) (r : Sql.Request) (calls : List Call) :
    ((runCalls (Builder.new d table) (blottedCalls calls)).toQuery.bind fun q => r.compile d' q).map
        Statement.sql
      = ((runCalls (Builder.new d table) calls).toQuery.bind fun q => r.compile d' q).map
        Statement.sql := by
  rw [toQuery_runCalls, toQuery_runCalls, appliedCalls_blotted, faultOf?_blottedCalls]
  cases faultOf? (appliedCalls calls) with
  | some fault => rfl
  | none => exact Sql.Request.sql_compile_congr d' (queryOf_blottedCalls d table calls) rfl

theorem toSql_eq_bind (calls : List Call) :
    (runCalls (Builder.new d table) calls).toSql
      = (runCalls (Builder.new d table) calls).toQuery.bind
          fun q => Sql.Request.select.compile d q := by
  rw [toSql_runCalls]
  cases (runCalls (Builder.new d table) calls).toQuery <;> rfl

/-- **Bound values do not reach the text.** Calls that are the same with their values blotted out fail
    alike, or describe a read of the same text, and every other request that they are made to is one
    of the same text too, if its rows have the same columns. -/
theorem text_of_blotted_eq {calls others : List Call}
    (h : calls.map Call.blotted = others.map Call.blotted) :
    (runCalls (Builder.new d table) calls).toSql.map Statement.sql
        = (runCalls (Builder.new d table) others).toSql.map Statement.sql
      ∧ ∀ (d' : Dialect) (r r' : Sql.Request), r.blotted = r'.blotted →
        ((runCalls (Builder.new d table) calls).toQuery.bind fun q => r.compile d' q).map Statement.sql
          = ((runCalls (Builder.new d table) others).toQuery.bind fun q => r'.compile d' q).map
            Statement.sql := by
  rw [← blottedCalls_eq_map, ← blottedCalls_eq_map] at h
  have hcalls : ∀ (d' : Dialect) (r : Sql.Request),
      ((runCalls (Builder.new d table) calls).toQuery.bind fun q => r.compile d' q).map Statement.sql
        = ((runCalls (Builder.new d table) others).toQuery.bind fun q => r.compile d' q).map
          Statement.sql := by
    intro d' r
    rw [← sql_blottedCalls, h, sql_blottedCalls]
  refine ⟨?_, ?_⟩
  · rw [toSql_eq_bind, hcalls, ← toSql_eq_bind]
  · intro d' r r' hr
    rw [hcalls]
    cases (runCalls (Builder.new d table) others).toQuery with
    | error e => rfl
    | ok q =>
        have hq : q.Alike q := ⟨rfl, rfl, rfl, rfl, rfl, rfl, rfl, rfl, rfl, rfl, rfl, rfl⟩
        exact Sql.Request.sql_compile_congr d' hq hr

end Run

/-- Two searches in a group under a scope, and two updates of what they find. -/
theorem text_of_blotted_eq_search :
    ∃ calls others : List Call,
      calls =
        [.whereGroup .and [.compare .and "a" "=" (.text "x"), .whereRaw .or "b = ?" [.int 1]],
          .oneOf .and "c" [.int 1, .null] false, .scope "s" [.compare .and "e" "!=" .null]]
      ∧ others =
        [.whereGroup .and [.compare .and "a" "=" (.text "' OR ?"), .whereRaw .or "b = ?" [.null]],
          .oneOf .and "c" [.bool true, .int 2] false, .scope "s" [.compare .and "e" "!=" .null]]
      ∧ calls.map Call.blotted = others.map Call.blotted
      ∧ (runCalls (Builder.new .postgres "t") others).toSql.map Statement.sql
        = .ok ("SELECT * FROM \"t\" WHERE (\"a\" = $1 OR b = $2) AND \"c\" IN ($3, $4)"
          ++ " AND \"e\" IS NOT NULL")
      ∧ (runCalls (Builder.new .postgres "t") calls).toSql.map Statement.sql
        = (runCalls (Builder.new .postgres "t") others).toSql.map Statement.sql
      ∧ (Sql.Request.update [("f", .int 3)]).blotted = (Sql.Request.update [("f", .null)]).blotted
      ∧ ((runCalls (Builder.new .postgres "t") calls).toQuery.bind fun q =>
            (Sql.Request.update [("f", .int 3)]).compile .mysql q).map Statement.sql
        = ((runCalls (Builder.new .postgres "t") others).toQuery.bind fun q =>
            (Sql.Request.update [("f", .null)]).compile .mysql q).map Statement.sql := by
  have hsame : List.map Call.blotted
      [.whereGroup .and [.compare .and "a" "=" (.text "x"), .whereRaw .or "b = ?" [.int 1]],
        .oneOf .and "c" [.int 1, .null] false, .scope "s" [.compare .and "e" "!=" .null]]
      = List.map Call.blotted
      [.whereGroup .and [.compare .and "a" "=" (.text "' OR ?"), .whereRaw .or "b = ?" [.null]],
        .oneOf .and "c" [.bool true, .int 2] false, .scope "s" [.compare .and "e" "!=" .null]] := rfl
  have htext := text_of_blotted_eq .postgres "t" hsame
  exact ⟨_, _, rfl, rfl, hsame, rfl, htext.1, rfl, htext.2 .mysql _ _ rfl⟩

end QueryKit
