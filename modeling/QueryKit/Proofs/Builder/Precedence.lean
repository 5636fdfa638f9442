import QueryKit.Proofs.Builder.Bindings
import QueryKit.Proofs.Filter.Precedence

set_option autoImplicit false

/-! # Isolation in the text of a query

Whether the conditions of the calls and those of the scopes become groups is decided from their
connectives. An OR inside of a raw condition is no connective, so in the text it can stand beside the
conditions of the other side. The text is true as both sides are if every raw condition with an OR at
its top has no AND beside it. -/

namespace QueryKit

namespace Sql

/-- The conditions in the text of a read. -/
theorem sql_compileSelect (d : Dialect) (q : Query) :
    ∃ (before behind : String) (start : Nat), (compileSelect d q).sql
      = before ++ (clause " WHERE " (wheresTemplate d q.wheres)).numbered d start ++ behind := by
  have hparts : ∀ t u v : Template, ∃ (before behind : String) (start : Nat),
      Template.numbered d 1 (t ++ u ++ v) = before ++ u.numbered d start ++ behind := fun t u v =>
    ⟨_, _, _, by rw [Template.numbered, Template.write_append, Template.write_append]; rfl⟩
  obtain ⟨before, behind, start, h⟩ := hparts
    (.text (if q.distinct then "SELECT DISTINCT " else "SELECT ") ::
      (Template.join ", " (q.columns.map (columnTemplate d))
        ++ Template.text (" FROM " ++ d.table q.table ++ joinsText d q.joins)))
    (clause " WHERE " (wheresTemplate d q.wheres))
    (Template.text (groupsText d q.groups) ++ clause " HAVING " (havingsTemplate d q.havings)
      ++ ordersTemplate d q.orders
      ++ Template.text (d.limitSuffix q.limit q.offset ++ lockText d q.lock))
  refine ⟨before, behind, start, ?_⟩
  rw [← h, compileSelect_eq, Template.statement, selectTemplate]
  simp only [List.cons_append, List.append_assoc]

end Sql

variable {d : Dialect} {table : String} {calls : List Call} {q : Query}

/-- **The text of a query is true as the calls and the scopes are, if no raw condition opens beside an
    AND.** Raw conditions stand in the text as they are, among the parts of all others. The two sides
    keep apart if OR joins conditions on either of them. Each raw condition counts as one, as if it
    stood between parentheses, if its text has no OR at its top or no AND beside it. -/
theorem text_isolates_if_apart (h : (runCalls (Builder.new d table) calls).toQuery = .ok q)
    (hreadable : ∀ x ∈ (queryFilter calls).conditions, x.Plain ∨ x.Readable d) :
    (∃ (before behind : String) (start : Nat), (Sql.compileSelect d q).sql
      = before ++ (Sql.clause " WHERE " (Sql.wheresTemplate d q.wheres)).numbered d start ++ behind)
    ∧ (∀ ρ : List Sql.Node → Bool, Sql.textTruth ρ (Sql.wheresTemplate d q.wheres).symbols
        = Connective.truth ((queryFilter calls).flatMap (Clause.entries d ρ)))
    ∧ (Filter.hasOr (clausesOf calls ++ scopedClauses calls) = true →
        ∀ ρ : List Sql.Node → Bool, Sql.textTruth ρ (Sql.wheresTemplate d q.wheres).symbols
          = (Sql.textTruth ρ (Sql.wheresTemplate d ((clausesOf calls).toWheres d)).symbols
            && Sql.textTruth ρ (Sql.wheresTemplate d ((scopedClauses calls).toWheres d)).symbols))
    ∧ ((queryFilter calls).Apart d →
        ∀ ρ : List Sql.Node → Bool, Sql.textTruth ρ (Sql.wheresTemplate d q.wheres).symbols
          = ((clausesOf calls).holds (Filter.judge d ρ)
            && (scopedClauses calls).holds (Filter.judge d ρ)))
    ∧ (∀ (ρ : List Sql.Node → Bool) (x : Condition), x.Plain → Filter.judge d ρ x = ρ (x.nodes d))
    ∧ ((∀ x ∈ (queryFilter calls).conditions, ¬x.Plain → Sql.opens (x.nodes d) = false) →
        (queryFilter calls).Apart d) := by
  have hread : ∀ x ∈ (queryFilter calls).conditions, x.Readable d :=
    fun x hx => (hreadable x hx).elim (·.readable d) id
  have hvalid := queryFilter_valid h
  have htext : ∀ ρ : List Sql.Node → Bool, Sql.textTruth ρ (Sql.wheresTemplate d q.wheres).symbols
      = Connective.truth ((queryFilter calls).flatMap (Clause.entries d ρ)) := by
    intro ρ
    rw [wheres_toQuery h]
    exact Filter.textTruth_wheresTemplate d ρ hvalid hread
  refine ⟨Sql.sql_compileSelect d q, htext, fun hor ρ => ?_, fun hapart ρ => ?_,
    fun ρ x => Filter.judge_of_plain d ρ, fun hopens => ?_⟩
  · have hconditions : (queryFilter calls).conditions
        = (clausesOf calls).conditions ++ (scopedClauses calls).conditions :=
      Filter.conditions_isolate _ _
    rw [Filter.Valid, hconditions, List.forall_mem_append] at hvalid
    rw [hconditions, List.forall_mem_append] at hread
    rw [htext, queryFilter, Filter.truth_entries_isolate d ρ hor,
      Filter.textTruth_wheresTemplate d ρ hvalid.1 hread.1,
      Filter.textTruth_wheresTemplate d ρ hvalid.2 hread.2]
  · rw [htext, hapart.truth_entries ρ hread, queryFilter, Filter.holds_isolate]
  · refine Filter.apart_of_forall fun x hx => ?_
    by_cases hplain : x.Plain
    · exact (hplain.isOne d).opens
    · exact hopens x hx hplain

/-- The text of a raw condition with alternatives, one of them between parentheses. -/
theorem readable_alternatives :
    Condition.Readable .postgres (.raw "a = 1 OR (b = ? AND c = 2)" [.int 7]) := by
  have hreads : Sql.Reads
      (Sql.conditionTemplate .postgres (.raw "a = 1 OR (b = ? AND c = 2)" [.int 7])).symbols
      [Sql.wordNode "a", .leaf (.sign '='), Sql.wordNode "1", Sql.wordNode "OR",
        .paren [Sql.wordNode "b", .leaf (.sign '='), .leaf (.hole (.int 7)), Sql.wordNode "AND",
          Sql.wordNode "c", .leaf (.sign '='), Sql.wordNode "2"]] := ⟨by decide +kernel, rfl⟩
  refine .of_reads ⟨nofun, ?_⟩ hreads (List.cons_ne_nil _ _) rfl
  rintro _ _ ⟨⟩
  decide

/-- A raw condition with an OR at the top of its text is the first of two alternatives, beside a scope. -/
theorem text_isolates_if_apart_alternatives :
    ∃ (calls : List Call) (q : Query),
      calls =
        [.scope "tenant" [.compare .and "tenant" "=" (.int 1)],
          .whereRaw .and "a = 1 OR (b = ? AND c = 2)" [.int 7], .isNull .or "d" false]
      ∧ (runCalls (Builder.new .postgres "t") calls).toQuery = .ok q
      ∧ (queryFilter calls).Apart .postgres
      ∧ ∀ ρ : List Sql.Node → Bool, Sql.textTruth ρ (Sql.wheresTemplate .postgres q.wheres).symbols
          = ((clausesOf calls).holds (Filter.judge .postgres ρ)
            && (scopedClauses calls).holds (Filter.judge .postgres ρ)) := by
  have h : (runCalls (Builder.new .postgres "t")
      [.scope "tenant" [.compare .and "tenant" "=" (.int 1)],
        .whereRaw .and "a = 1 OR (b = ? AND c = 2)" [.int 7], .isNull .or "d" false]).toQuery
      = .ok _ := rfl
  have hreadable : ∀ x ∈ Filter.conditions
      [.group .and [.leaf .and (.raw "a = 1 OR (b = ? AND c = 2)" [.int 7]),
          .leaf .or (.isNull "d" false)],
        .group .and [.leaf .and (.compare "tenant" "=" (.int 1))]],
      x.Plain ∨ x.Readable .postgres := by
    have hname : '(' ∉ "d".toList := by decide
    simp only [Filter.conditions_cons, Clause.conditions_leaf, Clause.conditions_group,
      Filter.conditions_nil, List.append_nil, List.cons_append, List.nil_append, List.forall_mem_cons]
    exact ⟨.inr readable_alternatives, .inl hname, .inl ⟨by decide, by decide⟩, nofun⟩
  have hapart : Filter.Apart .postgres
      [.group .and [.leaf .and (.raw "a = 1 OR (b = ? AND c = 2)" [.int 7]),
          .leaf .or (.isNull "d" false)],
        .group .and [.leaf .and (.compare "tenant" "=" (.int 1))]] := by
    refine ⟨rfl, ?_⟩
    simp only [List.forall_mem_cons]
    refine ⟨.group .and _ rfl ?_, .group .and _ rfl ?_, nofun⟩
    · simp only [List.forall_mem_cons]
      exact ⟨.leaf .., .leaf .., nofun⟩
    · simp only [List.forall_mem_cons]
      exact ⟨.leaf .., nofun⟩
  exact ⟨_, _, rfl, h, hapart, (text_isolates_if_apart h hreadable).2.2.2.1 hapart⟩

/-- An OR inside of a raw condition leaves a scope out. -/
theorem raw_or_leaves_scope_out :
    ∃ (calls : List Call) (q : Query) (ρ : List Sql.Node → Bool),
      calls =
        [.scope "tenant" [.compare .and "tenant" "=" (.int 1)],
          .whereRaw .and "a = 1 OR (b = ? AND c = 2)" [.int 7]]
      ∧ (runCalls (Builder.new .postgres "t") calls).toQuery = .ok q
      ∧ (∀ x ∈ (queryFilter calls).conditions, x.Readable .postgres)
      ∧ Sql.textTruth ρ (Sql.wheresTemplate .postgres q.wheres).symbols = true
      ∧ (scopedClauses calls).holds (Filter.judge .postgres ρ) = false := by
  have h : (runCalls (Builder.new .postgres "t")
      [.scope "tenant" [.compare .and "tenant" "=" (.int 1)],
        .whereRaw .and "a = 1 OR (b = ? AND c = 2)" [.int 7]]).toQuery = .ok _ := rfl
  have hreadable : ∀ x ∈ Filter.conditions
      [.leaf .and (.raw "a = 1 OR (b = ? AND c = 2)" [.int 7]),
        .leaf .and (.compare "tenant" "=" (.int 1))], x.Readable .postgres := by
    have hplain : Condition.Plain (.compare "tenant" "=" (.int 1)) := ⟨by decide, by decide⟩
    simp only [Filter.conditions_cons, Clause.conditions_leaf, Filter.conditions_nil,
      List.singleton_append, List.forall_mem_cons]
    exact ⟨readable_alternatives, hplain.readable .postgres, nofun⟩
  -- the part in front of the OR is true, and no other one is
  refine ⟨_, _, fun ns => ns.length == 3, rfl, h, hreadable, ?_, rfl⟩
  rw [wheres_toQuery h]
  exact (Filter.textTruth_wheresTemplate .postgres _ (queryFilter_valid h) hreadable).trans rfl

end QueryKit
