import QueryKit.Proofs.Eager.Assignment
import QueryKit.Proofs.Eager.Queries

set_option autoImplicit false

/-! # Constraints narrow relations

The statements by which the related rows of records are read have a condition on the key of the
records, and on the type of the records if the relation has a type column. Whatever calls a constraint
makes, the key condition narrows all that the statement reads. The type condition stands in one list
with the conditions of the constraint, so it does the same only as long as the constraint has no
alternatives (`relation_filter_narrows`). -/

namespace QueryKit

/-! ## Conditions of a relation -/

namespace Relation

/-- The condition that rows belong to records of a model. -/
def typeCondition (parent : Model) (column : String) : Condition :=
  .compare column "=" (.text parent.morphType)

/-- The condition on types, if the relation has a type column. -/
def typeFilter (r : Relation) (parent : Model) : Filter :=
  match r.typeColumn with
  | some column => [.leaf .and (typeCondition parent column)]
  | none => []

/-- The conditions of the scopes of a model, behind the calls of a constraint. -/
def scopeFilter (related : Model) (bodies : List (String × List Call)) (calls : List Call) : Filter :=
  scopedClauses (related.queryCalls bodies ++ calls)

/-- The condition matches the key column of the related rows with some of the ids, or with the id of
    the record at hand. -/
inductive IsKeyCondition (r : Relation) (table : String) (ids : List Value) : Condition → Prop
  | oneOf : IsKeyCondition r table ids (.oneOf r.relatedKey ids false)
  | equal (id : Value) : id ∈ ids → IsKeyCondition r table ids (.compare r.relatedKey "=" id)
  | correlated :
    IsKeyCondition r table ids
      (.compareColumns (Sql.tableReference table ++ "." ++ r.relatedKey) "="
        ("__parent." ++ Sql.parentKeyColumn))

/-- A type column is not the key column, so the conditions on them differ. -/
theorem IsKeyCondition.ne_typeCondition {r : Relation} {table : String} {ids : List Value}
    {key : Condition} (h : r.IsKeyCondition table ids key) (parent : Model) {column : String}
    (hcolumn : column ≠ r.relatedKey) : key ≠ typeCondition parent column := by
  cases h with
  | oneOf => nofun
  | equal id _ =>
      intro heq
      rw [typeCondition, Condition.compare.injEq] at heq
      exact hcolumn heq.1.symm
  | correlated => nofun

end Relation

/-! ## Statements that read under a filter -/

/-- The statement reads the rows for which a filter is true, once or for each of a list of ids. -/
inductive Statement.Reads (d : Dialect) (ids : List Value) (f : Filter) : Statement → Prop
  | select (q : Query) : q.wheres = f.toWheres d → Reads d ids f (Sql.compileSelect d q)
  | lateral (q : Query) (foreignKey : String) (statement : Statement) :
    (Sql.correlated d q foreignKey).wheres = f.toWheres d →
      Sql.compileLateral d q foreignKey ids = .ok statement → Reads d ids f statement

/-- The context with a log of the statements that are sent. -/
def LoadContext.recorded {σ : Type} (ctx : LoadContext σ) : LoadContext (σ × List Statement) :=
  { driver := ctx.driver.recorded, registry := ctx.registry, fallback := ctx.fallback }

namespace Relation

variable {σ : Type} (ctx : LoadContext σ) (parent related : Model) (r : Relation)
  (bodies : List (String × List Call)) (calls : List Call)

/-- The statement reads under a filter that is true exactly if three lists of conditions are: the type
    condition with those of the constraint behind it, a key condition, and those of the scopes. -/
def ReadsRelated (d : Dialect) (ids : List Value) (statement : Statement) : Prop :=
  ∃ (f : Filter) (key : Condition), statement.Reads d ids f ∧ r.IsKeyCondition related.table ids key
    ∧ ∀ ρ : Condition → Bool, f.holds ρ
        = ((r.typeFilter parent ++ clausesOf calls).holds ρ && ρ key
            && (scopeFilter related bodies calls).holds ρ)

/-! ## The query of a relation -/

/-- The calls that make the query of a relation. -/
def directCalls : List Call :=
  related.queryCalls bodies
    ++ ((match r.typeColumn with
        | some column => [.compare .and column "=" (.text parent.morphType)]
        | none => [])
      ++ calls)

theorem clausesOf_directCalls :
    clausesOf (directCalls parent related r bodies calls) = r.typeFilter parent ++ clausesOf calls := by
  rw [directCalls, clausesOf_append, clausesOf_append, Model.clausesOf_queryCalls, List.nil_append,
    typeFilter]
  cases r.typeColumn with
  | none => rfl
  | some column => rfl

theorem agenda_directCalls :
    (directCalls parent related r bodies calls).foldl Agenda.note {}
      = (related.queryCalls bodies ++ calls).foldl Agenda.note {} := by
  rw [directCalls, List.foldl_append, List.foldl_append, List.foldl_append]
  cases r.typeColumn with
  | none => rfl
  | some column => rfl

variable {related bodies}

theorem directQuery_eq (h : related.ScopedBy bodies) :
    directQuery ctx parent related r (some (.ofCalls calls))
      = (runCalls (Builder.new ctx.driver.dialect related.table)
          (directCalls parent related r bodies calls)).groupWheres := by
  rw [directCalls, runCalls_append, runCalls_append, ← related.query_eq_runCalls bodies h]
  cases hcolumn : r.typeColumn with
  | none => simp only [directQuery, constrained, hcolumn]; rfl
  | some column => simp only [directQuery, constrained, hcolumn]; rfl

variable {ctx parent r calls}

/-- Without fault, the query of a relation carries the type condition and those of the constraint. -/
theorem directQuery_carries (h : related.ScopedBy bodies)
    (hfault : (directQuery ctx parent related r (some (.ofCalls calls))).draft.fault = none) :
    Builder.Carries ctx.driver.dialect related.table
      ((related.queryCalls bodies ++ calls).foldl Agenda.note {})
      (r.typeFilter parent ++ clausesOf calls).gathered
      (directQuery ctx parent related r (some (.ofCalls calls))) := by
  rw [directQuery_eq ctx parent r calls h] at hfault ⊢
  have hcarries := Builder.Carries.of_calls hfault
  rwa [clausesOf_directCalls, agenda_directCalls] at hcarries

/-- A read with a key condition behind all others. -/
theorem readsRelated_select (h : related.ScopedBy bodies) {ids : List Value} {key : Condition}
    (hkey : r.IsKeyCondition related.table ids key) (call : Call)
    (hclauses : call.clauses = [.leaf .and key]) (hnote : ∀ a : Agenda, a.note call = a)
    {statement : Statement}
    (hsql : (call.run (directQuery ctx parent related r (some (.ofCalls calls)))).toSql
      = .ok statement) :
    ReadsRelated parent related r bodies calls ctx.driver.dialect ids statement := by
  obtain ⟨_, hq, -⟩ := Builder.toSql_eq_ok_iff.1 hsql
  obtain ⟨hfault, hcall⟩ := runCalls_fault_eq_none.1
    (Builder.fault_of_toQuery hq : (runCalls _ [call]).draft.fault = none)
  have hcarries := (directQuery_carries h hfault).runCalls hcall
  rw [List.foldl_cons, List.foldl_nil, hnote, clausesOf, hclauses, clausesOf, List.append_nil]
    at hcarries
  obtain ⟨q, hwheres, rfl⟩ := hcarries.toSql hsql
  refine ⟨_, key, .select q hwheres, hkey, fun ρ => ?_⟩
  rw [Filter.holds_isolate, Filter.holds_gathered_append]
  rfl

/-- A lateral read, whose key condition stands before all others. -/
theorem readsRelated_lateral (h : related.ScopedBy bodies) {q : Query} {ids : List Value}
    {statement : Statement}
    (hq : (directQuery ctx parent related r (some (.ofCalls calls))).toQuery = .ok q)
    (hstatement : Sql.compileLateral ctx.driver.dialect q r.relatedKey ids = .ok statement) :
    ReadsRelated parent related r bodies calls ctx.driver.dialect ids statement := by
  have hcarries := directQuery_carries h (Builder.fault_of_toQuery hq)
  have hwheres := hcarries.toQuery_wheres hq
  -- a lateral read puts all conditions into one group behind the key condition
  generalize hown : Filter.isolate (r.typeFilter parent ++ clausesOf calls).gathered _ = own at hwheres
  have hholds : ∀ ρ : Condition → Bool, own.holds ρ
      = ((r.typeFilter parent ++ clausesOf calls).holds ρ
          && (scopeFilter related bodies calls).holds ρ) := by
    intro ρ
    rw [← hown, Filter.holds_isolate, Filter.holds_gathered]
    rfl
  refine ⟨.leaf .and (.compareColumns (Sql.tableReference related.table ++ "." ++ r.relatedKey) "="
    ("__parent." ++ Sql.parentKeyColumn)) :: Filter.grouped .and own, _,
    .lateral q r.relatedKey statement ?_ hstatement, .correlated, fun ρ => ?_⟩
  · rw [Sql.correlated, hwheres, hcarries.toQuery_table hq]
    cases own with
    | nil => rfl
    | cons c rest => simp [Filter.grouped, Filter.toWheres]
  · rw [Filter.holds_cons_grouped, hholds, Bool.and_right_comm, Bool.and_comm]

/-! ## Loading -/

theorem sends_rowsOfParent (h : related.ScopedBy bodies) {ids : List Value} {id : Value}
    (hid : id ∈ ids) :
    Action.Sends (ReadsRelated parent related r bodies calls ctx.driver.dialect ids)
      (rowsOfParent ctx.recorded r
        (directQuery ctx parent related r (some (.ofCalls calls))) id) := by
  rw [rowsOfParent]
  cases hkey : id.key? with
  | none => exact .pure []
  | some k =>
      refine .bind (ctx.driver.sends_get fun statement hsql => ?_) fun rows => .pure _
      have hnull : id.isNull = false := by
        cases id with
        | null => cases hkey
        | _ => rfl
      have hop : operator? "=" = some "=" := rfl
      refine readsRelated_select h (.equal id hid) (.compare .and r.relatedKey "=" id) ?_
        (fun _ => rfl) hsql
      simp [Call.clauses, Builder.comparison, hnull, hop]

theorem sends_whereIn (h : related.ScopedBy bodies) (ids : List Value) :
    Action.Sends (ReadsRelated parent related r bodies calls ctx.driver.dialect ids)
      (((directQuery ctx parent related r (some (.ofCalls calls))).whereIn
        r.relatedKey ids).get ctx.driver.recorded) :=
  ctx.driver.sends_get fun _ hsql =>
    readsRelated_select h .oneOf (.oneOf .and r.relatedKey ids false) rfl (fun _ => rfl) hsql

theorem sends_limitedRows (h : related.ScopedBy bodies) (ids : List Value) :
    Action.Sends (ReadsRelated parent related r bodies calls ctx.driver.dialect ids)
      (limitedRows ctx.recorded r
        (directQuery ctx parent related r (some (.ofCalls calls))) ids) := by
  rw [limitedRows]
  split
  · refine .ofExcept_bind fun q hq => .ofExcept_bind fun statement hlateral => ?_
    refine .bind (ctx.driver.sends_query ?_) fun result => .pure _
    have hdialect := (directQuery_carries h (Builder.fault_of_toQuery hq)).dialect
    rw [Builder.dialect, hdialect] at hlateral
    exact readsRelated_lateral h hq hlateral
  · cases hfallback : ctx.recorded.fallback with
    | error => exact .throw _
    | unbounded => exact .bind (sends_whereIn h ids) fun rows => .pure _
    | perParent =>
      refine .bind (.mapM ids fun id hid => sends_rowsOfParent h hid) fun batches => .pure _

theorem sends_directAssignment (h : related.ScopedBy bodies)
    (hrelated : r.relatedModel ctx.registry = .ok related) (parents : List Record) :
    Action.Sends
      (ReadsRelated parent related r bodies calls ctx.driver.dialect (parentKeys r.parentKey parents))
      (r.directAssignment ctx.recorded parent (some (.ofCalls calls)) parents) := by
  rw [directAssignment, show ctx.recorded.registry = ctx.registry from rfl, hrelated]
  rw [Action.ofExcept_ok_bind]
  dsimp only
  split
  · exact .pure _
  · refine .bind ?_ fun rows => .pure _
    rw [directRows]
    split
    · exact sends_limitedRows h _
    · exact .bind (sends_whereIn h _) fun rows => .pure _

variable (calls) in
theorem sends_assignment (hmorph : r.kind ≠ .morphTo) (hpivot : r.kind ≠ .belongsToMany)
    (hscopes : related.ScopedBy bodies) (hrelated : r.relatedModel ctx.registry = .ok related)
    (parents : List Record) :
    Action.Sends
      (ReadsRelated parent related r bodies calls ctx.driver.dialect (parentKeys r.parentKey parents))
      (r.assignment ctx.recorded parent (some (.ofCalls calls)) parents) := by
  rw [assignment]
  cases hkind : r.kind with
  | morphTo => exact absurd hkind hmorph
  | belongsToMany => exact absurd hkind hpivot
  | _ => exact sends_directAssignment hscopes hrelated parents

theorem typeFilter_eq {column : String} (h : r.typeColumn = some column) :
    r.typeFilter parent = [.leaf .and (typeCondition parent column)] := by
  rw [typeFilter, h]

/-- **A constraint narrows a relation.** Every statement that is sent for the related rows reads under a
    filter that is true exactly if three lists of conditions are: the condition on the type with those
    of the constraint behind it, the condition on the key, and those of the scopes. So the rows have a
    key of the records, whatever alternatives the constraint has. They have the type of the records if
    the constraint has no alternatives; and if the condition on the type is not repeated, only then. -/
theorem relation_filter_narrows (hmorph : r.kind ≠ .morphTo) (hpivot : r.kind ≠ .belongsToMany)
    (hrelated : r.relatedModel ctx.registry = .ok related) (hscopes : related.ScopedBy bodies)
    (parents : List Record) (s : σ) :
    ∀ statement ∈
      ((r.load ctx.recorded parent (some (.ofCalls calls))).on parents).sent s,
    ∃ (f : Filter) (key : Condition),
      statement.Reads ctx.driver.dialect (parentKeys r.parentKey parents) f
      ∧ r.IsKeyCondition related.table (parentKeys r.parentKey parents) key
      ∧ (∀ ρ : Condition → Bool, f.holds ρ
          = ((r.typeFilter parent ++ clausesOf calls).holds ρ && ρ key
              && (scopeFilter related bodies calls).holds ρ))
      ∧ (∀ ρ : Condition → Bool, f.holds ρ = true → ρ key = true)
      ∧ ∀ column, r.typeColumn = some column →
          ((clausesOf calls).hasOr = false →
            ∀ ρ : Condition → Bool, f.holds ρ = true → ρ (typeCondition parent column) = true)
          ∧ (column ≠ r.relatedKey →
              typeCondition parent column ∉ (clausesOf calls).conditions →
              typeCondition parent column ∉ (scopeFilter related bodies calls).conditions →
              (∀ ρ : Condition → Bool, f.holds ρ = true → ρ (typeCondition parent column) = true) →
              (clausesOf calls).hasOr = false) := by
  intro statement hsent
  rw [sent_on_load] at hsent
  obtain ⟨f, key, hreads, hkey, hholds⟩ :=
    (sends_assignment calls hmorph hpivot hscopes hrelated parents).of_mem_sent hsent
  refine ⟨f, key, hreads, hkey, hholds, fun ρ hρ => ?_, fun column hcolumn => ⟨fun hor ρ hρ => ?_, ?_⟩⟩
  · rw [hholds, Bool.and_eq_true, Bool.and_eq_true] at hρ
    exact hρ.1.2
  · rw [hholds, Bool.and_eq_true, Bool.and_eq_true, typeFilter_eq hcolumn] at hρ
    exact Filter.holds_head_of_and ρ hor hρ.1.1
  · intro hne hown hscope himplies
    by_contra hor
    rw [Bool.not_eq_false] at hor
    -- everything but the type can be true where the constraint has an alternative
    have hfilter : f.holds (Filter.outside [typeCondition parent column]) = true := by
      rw [hholds, typeFilter_eq hcolumn, Bool.and_eq_true, Bool.and_eq_true]
      refine ⟨⟨Filter.holds_outside_head hor hown, ?_⟩, Filter.holds_of_conditions _ _ fun x hx => ?_⟩
      · exact Filter.outside_of_notMem fun hmem =>
          hkey.ne_typeCondition parent hne (List.mem_singleton.1 hmem)
      · exact Filter.outside_of_notMem fun hmem => hscope (List.mem_singleton.1 hmem ▸ hx)
    have htype := himplies _ hfilter
    rw [Filter.outside_of_mem (List.mem_singleton_self _)] at htype
    exact Bool.noConfusion htype

/-- A constraint with alternatives on a relation with a type column reads rows of all types. -/
theorem relation_filter_narrows_reactions :
    ∃ (parent related : Model) (registry : ModelRegistry) (calls : List Call) (statement : Statement)
      (f : Filter) (key : Condition) (ρ : Condition → Bool),
      parent = { name := "Post", table := "posts" }
      ∧ related = { name := "Reaction", table := "reactions" }
      ∧ registry = { models := [("Post", parent), ("Reaction", related)] }
      ∧ calls = [.compare .and "kind" "=" (.text "x"), .compare .or "kind" "=" (.text "y")]
      ∧ (((morphMany "reactions" "Reaction" "reactable").load
          (LoadContext.recorded { driver := .blank .postgres, registry, fallback := .error }) parent
          (some (.ofCalls calls))).on
            [.ofRow parent (Row.ofList [("id", .int 1)])]).sent () = [statement]
      ∧ statement.Reads .postgres [.int 1] f
      ∧ (morphMany "reactions" "Reaction" "reactable").IsKeyCondition "reactions" [.int 1] key
      ∧ f.holds ρ = true ∧ ρ key = true ∧ ρ (typeCondition parent "reactable_type") = false := by
  have hsent : (((morphMany "reactions" "Reaction" "reactable").load
      (LoadContext.recorded
        { driver := .blank .postgres
          registry :=
            { models := [("Post", { name := "Post", table := "posts" }),
                ("Reaction", { name := "Reaction", table := "reactions" })] }
          fallback := .error })
      { name := "Post", table := "posts" }
      (some (.ofCalls
        [.compare .and "kind" "=" (.text "x"), .compare .or "kind" "=" (.text "y")]))).on
      [.ofRow { name := "Post", table := "posts" } (Row.ofList [("id", .int 1)])]).sent () = [_] := rfl
  have hscoped : Model.ScopedBy { name := "Reaction", table := "reactions" } [] := rfl
  obtain ⟨f, key, hreads, hkey, -, hnarrow, htype⟩ :=
    relation_filter_narrows (by decide) (by decide) rfl hscoped _ () _
      (hsent ▸ List.mem_singleton_self _)
  have hown : typeCondition { name := "Post", table := "posts" } "reactable_type"
      ∉ [Condition.compare "kind" "=" (.text "x"), .compare "kind" "=" (.text "y")] := by
    simp [typeCondition]
  obtain ⟨ρ, hρ, hfalse⟩ :
      ∃ ρ : Condition → Bool, f.holds ρ = true
        ∧ ρ (typeCondition { name := "Post", table := "posts" } "reactable_type") = false := by
    by_contra hnone
    have hor := (htype "reactable_type" rfl).2 (by decide) hown
      (List.not_mem_nil : typeCondition _ _ ∉ ([] : List Condition)) fun ρ hρ => by
        rw [← Bool.not_eq_false]
        exact fun hfalse => hnone ⟨ρ, hρ, hfalse⟩
    exact Bool.noConfusion hor
  exact ⟨_, _, _, _, _, f, key, ρ, rfl, rfl, rfl, rfl, hsent, hreads, hkey, hρ, hnarrow ρ hρ, hfalse⟩

end Relation

end QueryKit
