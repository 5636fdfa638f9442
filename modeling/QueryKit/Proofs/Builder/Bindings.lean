import QueryKit.Proofs.Builder.Isolation
import QueryKit.Proofs.Filter.Markers

set_option autoImplicit false

/-! # Values of a query

The values that calls push can be read off the calls (`pushed`). A query holds them, and binds them
when it is compiled, exactly if no group of its conditions hides markers. -/

namespace QueryKit

/-! ## Pushed values -/

/-- The values of the select list after a call. -/
def Call.selectValues (values : List Value) : Call → List Value
  | .select _ => []
  | .selectRaw _ more => values ++ more
  | _ => values

/-- The values that a call pushes for conditions on groups of rows. -/
def Call.havingValues : Call → List Value
  | .having _ _ _ value => [value]
  | .havingRaw _ values => values
  | _ => []

/-- The values that a call pushes for the order. -/
def Call.orderValues : Call → List Value
  | .orderByRaw _ values => values
  | _ => []

/-- The values that calls push, by the part that they are pushed for. -/
def pushed (calls : List Call) : Buckets where
  select := calls.foldl Call.selectValues []
  wheres := (clausesOf calls).values
  having := calls.flatMap Call.havingValues
  order := calls.flatMap Call.orderValues

/-! ## Checked conditions -/

theorem mem_operators_of_fault_eq_none {op : String} (h : operatorFault? op = none) :
    (operator? op).getD op ∈ operators := by
  unfold operatorFault? at h
  split at h
  · next listed hlisted =>
      rw [hlisted]
      unfold operator? at hlisted
      exact List.mem_of_find?_eq_some hlisted
  · cases h

theorem countMarkers_of_fault_eq_none {sql : String} {values : List Value}
    (h : markerFault? sql values = none) : Sql.countMarkers sql = values.length := by
  unfold markerFault? at h
  simp only at h
  split at h
  · assumption
  · cases h

theorem Filter.conditions_grouped (k : Connective) (f : Filter) :
    (Filter.grouped k f).conditions = f.conditions := by
  cases f with
  | nil => rfl
  | cons c rest => simp [Filter.grouped]

theorem valid_comparison {op : String} (h : op ∈ operators) (column : String) (value : Value) :
    (Builder.comparison column op value).Valid := by
  unfold Builder.comparison
  -- a comparison with null can be a test for null, which has no operator
  split
  · trivial
  · split
    · trivial
    · exact h

theorem clausesOf_valid_of {calls : List Call} (h : faultOf? calls = none)
    (hcalls : ∀ call ∈ calls, call.fault? = none → Filter.Valid call.clauses) :
    (clausesOf calls).Valid := by
  induction calls with
  | nil => exact fun x hx => absurd hx List.not_mem_nil
  | cons call rest ih =>
      rw [faultOf?, Option.or_eq_none_iff] at h
      intro x hx
      rw [clausesOf, Filter.conditions_append, List.mem_append] at hx
      rcases hx with hx | hx
      · exact hcalls call (List.mem_cons_self ..) h.1 x hx
      · exact ih h.2 (fun c hc => hcalls c (List.mem_cons_of_mem _ hc)) x hx

/-- A call without fault adds checked conditions only. -/
theorem Call.clauses_valid (call : Call) (h : call.fault? = none) : Filter.Valid call.clauses := by
  induction call using Call.body_induction with
  | step call ih =>
      cases call with
      | whereGroup k body =>
        simp only [clauses, Filter.Valid, Filter.conditions_grouped]
        rw [fault?] at h
        exact clausesOf_valid_of h ih
      | compare k column op value =>
        rw [fault?, Option.or_eq_none_iff] at h
        intro x hx
        rw [List.mem_singleton.1 hx]
        exact valid_comparison (mem_operators_of_fault_eq_none h.1) column value
      | compareColumns k left op right =>
        rw [fault?, Option.or_eq_none_iff] at h
        intro x hx
        rw [List.mem_singleton.1 hx]
        exact mem_operators_of_fault_eq_none h.1
      | whereRaw k sql values =>
        rw [fault?] at h
        intro x hx
        rw [List.mem_singleton.1 hx]
        exact countMarkers_of_fault_eq_none h
      | oneOf | isNull | between =>
        intro x hx
        rw [List.mem_singleton.1 hx]
        trivial
      | _ => exact fun x hx => absurd hx List.not_mem_nil

/-! ## Tallies -/

/-- The values that a select list binds. -/
def Sql.selectBound (d : Dialect) (columns : List SelectColumn) : List Value :=
  columns.flatMap fun c => (columnTemplate d c).values

/-- The values that conditions on groups of rows bind. -/
def Sql.havingBound (d : Dialect) (havings : List Having) : List Value :=
  havings.flatMap fun h => (groupConditionTemplate d h.condition).values

/-- The values that an order binds. -/
def Sql.orderBound (d : Dialect) (orders : List Order) : List Value :=
  orders.flatMap fun o => (orderTemplate d o).values

namespace Sql

variable (d : Dialect)

theorem selectBound_append (xs ys : List SelectColumn) :
    selectBound d (xs ++ ys) = selectBound d xs ++ selectBound d ys :=
  List.flatMap_append

theorem havingBound_append (xs ys : List Having) :
    havingBound d (xs ++ ys) = havingBound d xs ++ havingBound d ys :=
  List.flatMap_append

theorem orderBound_append (xs ys : List Order) :
    orderBound d (xs ++ ys) = orderBound d xs ++ orderBound d ys :=
  List.flatMap_append

theorem values_fill_of_count {sql : String} {values : List Value}
    (h : countMarkers sql = values.length) : (Template.fill sql values).values = values := by
  rw [Template.values_fill, h, List.take_length]

end Sql

namespace Draft

/-- What calls pushed is what the draft has collected and what its parts bind, in every dialect. The
    conditions are an exception: what is collected for a group is what its text binds. -/
structure Tallied (d : Dialect) (calls : List Call) (draft : Draft) : Prop where
  dialect : draft.dialect = d
  valid : (clausesOf calls).Valid
  select : draft.buckets.select = (pushed calls).select
  wheres : draft.buckets.wheres = ((clausesOf calls).toWheres d).flatMap Where.values
  having : draft.buckets.having = (pushed calls).having
  order : draft.buckets.order = (pushed calls).order
  columns : ∀ d' : Dialect, Sql.selectBound d' draft.columns = (pushed calls).select
  havings : ∀ d' : Dialect, Sql.havingBound d' draft.havings = (pushed calls).having
  orders : ∀ d' : Dialect, Sql.orderBound d' draft.orders = (pushed calls).order

theorem selectBound_dropStar (d' : Dialect) (draft : Draft) :
    Sql.selectBound d' draft.dropStar.columns = Sql.selectBound d' draft.columns := by
  rw [dropStar]
  split
  · next c hcolumns =>
      split
      · next hstar =>
          cases c with
          | column name =>
              rw [hcolumns]
              rfl
          | raw sql values => cases hstar
      · rfl
  · rfl

theorem orderBound_ensureKeyOrder (d' : Dialect) (draft : Draft) :
    Sql.orderBound d' draft.ensureKeyOrder.orders = Sql.orderBound d' draft.orders := by
  rw [ensureKeyOrder]
  split
  · rfl
  · simp [Sql.orderBound, keyOrder, Sql.orderTemplate]

end Draft

namespace Call

variable {call : Call} {b : Builder} {values : List Value}

theorem effect_select (hfault : call.fault? = none) (hbucket : b.draft.buckets.select = values)
    (hbound : ∀ d' : Dialect, Sql.selectBound d' b.draft.columns = values) :
    (call.effect b).draft.buckets.select = call.selectValues values
      ∧ ∀ d' : Dialect,
        Sql.selectBound d' (call.effect b).draft.columns = call.selectValues values := by
  cases call with
  | select columns =>
      refine ⟨rfl, fun d' => ?_⟩
      simp only [effect, Builder.modify, Draft.selectOnly, selectValues]
      split
      · rfl
      · simp [Sql.selectBound, Sql.columnTemplate, List.flatMap_map]
  | addSelect column =>
      simp only [effect, Builder.modify, Draft.addColumn, Draft.dropStar_buckets, selectValues]
      refine ⟨by rw [hbucket]; exact List.append_nil values, fun d' => ?_⟩
      rw [Sql.selectBound_append, Draft.selectBound_dropStar, hbound]
      exact List.append_nil values
  | selectRaw sql more =>
      simp only [effect, Builder.modify, Draft.addColumn, Draft.dropStar_buckets, selectValues]
      refine ⟨by rw [hbucket]; rfl, fun d' => ?_⟩
      rw [Sql.selectBound_append, Draft.selectBound_dropStar, hbound, Sql.selectBound, List.flatMap_singleton,
        Sql.columnTemplate, Sql.values_fill_of_count (countMarkers_of_fault_eq_none hfault)]
  | paginate page =>
      simp only [effect, Builder.paginate, Builder.modify, Draft.ensureKeyOrder_buckets,
        Draft.ensureKeyOrder_columns, selectValues]
      exact ⟨hbucket, hbound⟩
  | compare | whereGroup | oneOf | isNull | between | whereRaw | compareColumns =>
      simp only [effect, Builder.modify, Draft.addWheres_buckets, Draft.addWheres_columns,
        selectValues]
      exact ⟨hbucket, hbound⟩
  | _ => exact ⟨hbucket, hbound⟩

theorem effect_having (hfault : call.fault? = none) (hbucket : b.draft.buckets.having = values)
    (hbound : ∀ d' : Dialect, Sql.havingBound d' b.draft.havings = values) :
    (call.effect b).draft.buckets.having = values ++ call.havingValues
      ∧ ∀ d' : Dialect,
        Sql.havingBound d' (call.effect b).draft.havings = values ++ call.havingValues := by
  cases call with
  | having k column op value =>
      simp only [effect, Builder.modify, Draft.addHaving, havingValues]
      refine ⟨by rw [hbucket]; rfl, fun d' => ?_⟩
      rw [Sql.havingBound_append, hbound]
      rfl
  | havingRaw sql more =>
      simp only [effect, Builder.modify, Draft.addHaving, havingValues]
      refine ⟨by rw [hbucket]; rfl, fun d' => ?_⟩
      rw [Sql.havingBound_append, hbound, Sql.havingBound, List.flatMap_singleton,
        Sql.groupConditionTemplate, Sql.values_fill_of_count (countMarkers_of_fault_eq_none hfault)]
  | addSelect | selectRaw =>
      simp only [effect, Builder.modify, Draft.addColumn, Draft.dropStar_buckets,
        Draft.dropStar_havings, havingValues, List.append_nil]
      exact ⟨hbucket, hbound⟩
  | paginate page =>
      simp only [effect, Builder.paginate, Builder.modify, Draft.ensureKeyOrder_buckets,
        Draft.ensureKeyOrder_havings, havingValues, List.append_nil]
      exact ⟨hbucket, hbound⟩
  | compare | whereGroup | oneOf | isNull | between | whereRaw | compareColumns =>
      simp only [effect, Builder.modify, Draft.addWheres_buckets, Draft.addWheres_havings,
        havingValues, List.append_nil]
      exact ⟨hbucket, hbound⟩
  | _ =>
      simp only [havingValues, List.append_nil]
      exact ⟨hbucket, hbound⟩

theorem effect_order (hfault : call.fault? = none) (hbucket : b.draft.buckets.order = values)
    (hbound : ∀ d' : Dialect, Sql.orderBound d' b.draft.orders = values) :
    (call.effect b).draft.buckets.order = values ++ call.orderValues
      ∧ ∀ d' : Dialect,
        Sql.orderBound d' (call.effect b).draft.orders = values ++ call.orderValues := by
  cases call with
  | orderBy column direction =>
      simp only [effect, Builder.modify, Draft.addOrder, orderValues]
      refine ⟨by rw [hbucket]; rfl, fun d' => ?_⟩
      rw [Sql.orderBound_append, hbound]
      rfl
  | orderByRaw sql more =>
      simp only [effect, Builder.modify, Draft.addOrder, orderValues]
      refine ⟨by rw [hbucket]; rfl, fun d' => ?_⟩
      rw [Sql.orderBound_append, hbound, Sql.orderBound, List.flatMap_singleton,
        Sql.orderTemplate, Sql.values_fill_of_count (countMarkers_of_fault_eq_none hfault)]
  | addSelect | selectRaw =>
      simp only [effect, Builder.modify, Draft.addColumn, Draft.dropStar_buckets,
        Draft.dropStar_orders, orderValues, List.append_nil]
      exact ⟨hbucket, hbound⟩
  | paginate page =>
      simp only [effect, Builder.paginate, Builder.modify, Draft.ensureKeyOrder_buckets,
        Draft.orderBound_ensureKeyOrder, orderValues, List.append_nil]
      exact ⟨hbucket, hbound⟩
  | compare | whereGroup | oneOf | isNull | between | whereRaw | compareColumns =>
      simp only [effect, Builder.modify, Draft.addWheres_buckets, Draft.addWheres_orders,
        orderValues, List.append_nil]
      exact ⟨hbucket, hbound⟩
  | _ =>
      simp only [orderValues, List.append_nil]
      exact ⟨hbucket, hbound⟩

theorem effect_bucket_wheres (call : Call) (b : Builder) :
    (call.effect b).draft.buckets.wheres
      = b.draft.buckets.wheres
        ++ (call.clauses.toWheres b.draft.dialect).flatMap Where.values := by
  cases call with
  | compare | whereGroup | oneOf | isNull | between | whereRaw | compareColumns =>
      simp only [effect, Builder.modify, Draft.addWheres_buckets]
  | addSelect | selectRaw | paginate =>
      simp [effect, clauses, Builder.modify, Builder.paginate, Draft.addColumn]
  | _ => exact (List.append_nil _).symm

end Call

namespace Draft

theorem Tallied.kept (d : Dialect) : Kept (Tallied d) where
  effect := by
    intro calls call b hfault h
    obtain ⟨hselect, hcolumns⟩ := Call.effect_select hfault h.select h.columns
    obtain ⟨hhaving, hhavings⟩ := Call.effect_having hfault h.having h.havings
    obtain ⟨horder, horders⟩ := Call.effect_order hfault h.order h.orders
    have hclauses : clausesOf (calls ++ [call]) = clausesOf calls ++ call.clauses := by
      rw [clausesOf_append, clausesOf, clausesOf, List.append_nil]
    have hpushed : pushed (calls ++ [call])
        = { select := call.selectValues (pushed calls).select
            wheres := (clausesOf (calls ++ [call])).values
            having := (pushed calls).having ++ call.havingValues
            order := (pushed calls).order ++ call.orderValues } := by
      simp [pushed]
    exact
      { dialect := (call.effect_sameFrame b).dialect.trans h.dialect
        valid := by
          intro x hx
          rw [hclauses, Filter.conditions_append, List.mem_append] at hx
          exact hx.elim (h.valid x) (call.clauses_valid hfault x)
        select := by rw [hselect, hpushed]
        wheres := by
          rw [call.effect_bucket_wheres b, h.wheres, h.dialect, hclauses, Filter.toWheres_append,
            List.flatMap_append]
        having := by rw [hhaving, hpushed]
        order := by rw [horder, hpushed]
        columns := by
          rw [hpushed]
          exact hcolumns
        havings := by
          rw [hpushed]
          exact hhavings
        orders := by
          rw [hpushed]
          exact horders }
  mark := fun _ _ _ _ h =>
    ⟨h.dialect, h.valid, h.select, h.wheres, h.having, h.order, h.columns, h.havings, h.orders⟩

theorem tallied_new (d : Dialect) (table : String) : Tallied d [] (Builder.new d table).draft :=
  ⟨rfl, fun _ hx => absurd hx List.not_mem_nil, rfl, rfl, rfl, rfl, fun _ => rfl, fun _ => rfl,
    fun _ => rfl⟩

@[simp] theorem bindings_snapshot (draft : Draft) :
    draft.snapshot.bindings = draft.buckets.all := by
  simp only [snapshot]
  split
  · rw [ensureKeyOrder_buckets]
  · rfl

@[simp] theorem columns_snapshot (draft : Draft) : draft.snapshot.columns = draft.columns := by
  simp only [snapshot]
  split
  · exact draft.ensureKeyOrder_columns
  · rfl

@[simp] theorem havings_snapshot (draft : Draft) : draft.snapshot.havings = draft.havings := by
  simp only [snapshot]
  split
  · exact draft.ensureKeyOrder_havings
  · rfl

theorem orderBound_snapshot (d' : Dialect) (draft : Draft) :
    Sql.orderBound d' draft.snapshot.orders = Sql.orderBound d' draft.orders := by
  simp only [snapshot]
  split
  · exact orderBound_ensureKeyOrder d' draft
  · rfl

/-- Keeping conditions apart changes no other part. -/
theorem isolate_eq (draft : Draft) (count : Nat) :
    draft.isolate count = { draft with wheres := (draft.isolate count).wheres } := by
  rw [isolate]
  split <;> rfl

end Draft

theorem Filter.keeps_of_isolate {d : Dialect} {own others : Filter}
    (h : ∀ c ∈ Filter.isolate own others, c.KeepsMarkers d) :
    ∀ c ∈ own ++ others, c.KeepsMarkers d := by
  unfold Filter.isolate at h
  split at h
  · exact h
  · intro c hc
    rw [List.forall_mem_cons, List.forall_mem_singleton] at h
    obtain ⟨hown, hothers⟩ := h
    cases hown with
    | group _ _ hown _ =>
      cases hothers with
      | group _ _ hothers _ => exact (List.mem_append.1 hc).elim (hown c) (hothers c)

section Query

variable {d : Dialect} {table : String} {calls : List Call} {q : Query}

/-- The values of a query in its parts: those that it holds, and those that it binds. -/
theorem bindings_toQuery (h : (runCalls (Builder.new d table) calls).toQuery = .ok q) :
    q.bindings
        = (pushed (appliedCalls calls)).select
          ++ ((clausesOf (appliedCalls calls)).toWheres d).flatMap Where.values
          ++ (pushed (appliedCalls calls)).having ++ (pushed (appliedCalls calls)).order
      ∧ (∀ d' : Dialect, (Sql.compileSelect d' q).bindings
        = (pushed (appliedCalls calls)).select
          ++ (queryFilter calls).flatMap (Clause.bound d d')
          ++ (pushed (appliedCalls calls)).having ++ (pushed (appliedCalls calls)).order)
      ∧ (clausesOf (appliedCalls calls)).Valid := by
  have hwheres := wheres_toQuery h
  obtain ⟨own, all, -, hall, rfl⟩ := (Draft.Tallied.kept d).toQuery (Draft.tallied_new d table) h
  have hisolate := all.isolate_eq own.wheres.length
  generalize all.isolate own.wheres.length = kept at hwheres hisolate ⊢
  refine ⟨?_, fun d' => ?_, hall.valid⟩
  · rw [Draft.bindings_snapshot, hisolate, Buckets.all, hall.select, hall.wheres, hall.having, hall.order]
  · have hvalues : (Sql.compileSelect d' kept.snapshot).bindings
        = Sql.selectBound d' kept.snapshot.columns
          ++ (Sql.wheresTemplate d' kept.snapshot.wheres).values
          ++ Sql.havingBound d' kept.snapshot.havings ++ Sql.orderBound d' kept.snapshot.orders := by
      rw [Sql.havingBound, ← Sql.values_havingsTemplate, Sql.compileSelect_eq]
      exact Sql.values_selectTemplate d' kept.snapshot
    have hcolumns : kept.columns = all.columns := congrArg (·.columns) hisolate
    have hhavings : kept.havings = all.havings := congrArg (·.havings) hisolate
    have horders : kept.orders = all.orders := congrArg (·.orders) hisolate
    rw [hvalues, hwheres, Filter.values_wheresTemplate, Draft.columns_snapshot, hcolumns,
      hall.columns, Draft.havings_snapshot, hhavings, hall.havings, Draft.orderBound_snapshot,
      horders, hall.orders]

/-- The filter of a query is checked. -/
theorem queryFilter_valid (h : (runCalls (Builder.new d table) calls).toQuery = .ok q) :
    (queryFilter calls).Valid := by
  have hvalid := (bindings_toQuery h).2.2
  rw [clausesOf_appliedCalls, Filter.Valid, Filter.conditions_append] at hvalid
  rwa [queryFilter, Filter.Valid, Filter.conditions_isolate]

/-- **A query holds and binds what its calls push, exactly if its groups keep their markers.** They do
    if no condition leaves a quote open. -/
theorem bindings_eq_pushed_iff (h : (runCalls (Builder.new d table) calls).toQuery = .ok q) :
    (∀ d' : Dialect, (Sql.compileSelect d' q).bindings = q.bindings
        ∧ q.bindings = (pushed (appliedCalls calls)).all
      ↔ ∀ c ∈ queryFilter calls, c.KeepsMarkers d)
    ∧ ((∀ x ∈ (queryFilter calls).conditions, x.Closed d) →
      ∀ c ∈ queryFilter calls, c.KeepsMarkers d) := by
  obtain ⟨hheld, hbound, hvalid⟩ := bindings_toQuery h
  rw [clausesOf_appliedCalls] at hheld hvalid
  have hconditions : (queryFilter calls).conditions
      = Filter.conditions (clausesOf calls ++ scopedClauses calls) := by
    rw [queryFilter, Filter.conditions_isolate, Filter.conditions_append]
  have hfilter : (queryFilter calls).Valid := by
    rw [Filter.Valid, hconditions]
    exact hvalid
  have hwheres : (pushed (appliedCalls calls)).wheres = (queryFilter calls).values := by
    rw [Filter.values, hconditions, ← clausesOf_appliedCalls]
    rfl
  have hall : (pushed (appliedCalls calls)).all
      = (pushed (appliedCalls calls)).select ++ (queryFilter calls).values
        ++ (pushed (appliedCalls calls)).having ++ (pushed (appliedCalls calls)).order := by
    rw [Buckets.all, hwheres]
  constructor
  · intro d'
    have hkeeps := (Clause.flatMap_bound_eq_iff d d' hfilter).trans
      (forall₂_congr fun c hc => Clause.bound_eq_values_iff d d' (hfilter.of_mem hc))
    rw [hbound d', hall, ← hkeeps]
    -- what is bound and what is pushed can differ in the conditions only
    constructor
    · rintro ⟨heq, hpushed⟩
      rw [← heq] at hpushed
      simpa only [List.append_assoc, List.append_cancel_left_eq, List.append_cancel_right_eq]
        using hpushed
    · intro hsame
      have hown := Filter.keeps_of_isolate (hkeeps.1 hsame)
      have hcollected : (Filter.toWheres d (clausesOf calls ++ scopedClauses calls)).flatMap
          Where.values = (queryFilter calls).values := by
        rw [Filter.values_toWheres_of_keeps d hvalid hown, Filter.values, ← hconditions]
        rfl
      rw [hheld, hcollected, hsame]
      exact ⟨rfl, rfl⟩
  · intro hclosed c hc
    exact (Clause.clean_of_closed d (hfilter.of_mem hc)
      fun x hx => hclosed x (List.mem_flatMap.2 ⟨c, hc, hx⟩)).2

/-- A group in which a condition leaves a quote open loses the value of the next one. -/
theorem bindings_eq_pushed_iff_open_quote :
    ∃ (calls : List Call) (q : Query),
      calls =
        [.whereGroup .and [.whereRaw .and "note = E'it\\'s'" [], .compare .and "b" "=" (.int 2)]]
      ∧ (runCalls (Builder.new .postgres "t") calls).toQuery = .ok q
      ∧ q.bindings = [.int 2] ∧ (Sql.compileSelect .postgres q).bindings = []
      ∧ ¬∀ c ∈ queryFilter calls, c.KeepsMarkers .postgres := by
  have h : (runCalls (Builder.new .postgres "t")
      [.whereGroup .and [.whereRaw .and "note = E'it\\'s'" [],
        .compare .and "b" "=" (.int 2)]]).toQuery = .ok _ := rfl
  refine ⟨_, _, rfl, h, rfl, rfl, fun hkeeps => ?_⟩
  have hsame := (((bindings_eq_pushed_iff h).1 .postgres).2 hkeeps).1
  exact List.cons_ne_nil _ _ hsame.symm

end Query

end QueryKit
