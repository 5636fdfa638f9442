import QueryKit.Proofs.Builder.Isolation
import QueryKit.Proofs.Builder.Snapshot

set_option autoImplicit false

/-! # The filter that a builder carries

A builder that began as a new one carries the conditions of a filter and awaits the scopes of an
agenda (`Builder.Carries`). Every call and the grouping of the conditions collected so far say what is
carried next, and the query that is taken at last has the filter in its conditions, beside those of
the scopes. -/

namespace QueryKit

/-! ## Gathering conditions -/

namespace Filter

/-- All conditions as one if any of them is joined by OR, and otherwise as they are. -/
def gathered (f : Filter) : Filter :=
  if f.hasOr then [.group .and f] else f

variable (ρ : Condition → Bool)

theorem holds_gathered (f : Filter) : f.gathered.holds ρ = f.holds ρ := by
  rw [gathered]
  split
  · rw [holds_singleton, Clause.truth_group]
  · rfl

/-- **What is added to gathered conditions narrows all of them.** -/
theorem holds_gathered_append (f : Filter) (c : Condition) :
    holds ρ (f.gathered ++ [.leaf .and c]) = (f.holds ρ && ρ c) := by
  rw [gathered]
  split
  · rw [List.singleton_append, holds, List.map_cons, List.map_cons, List.map_nil, Clause.truth_group,
      Clause.truth_leaf]
    rfl
  · next h =>
      rw [Bool.not_eq_true] at h
      have hand := connective_of_hasOr_eq_false f h
      rw [holds_of_forall_and ρ f fun x hx => hand x (List.mem_of_mem_tail hx),
        holds_of_forall_and ρ _ ?_, List.all_append, List.all_cons, List.all_nil, Bool.and_true,
        Clause.truth_leaf]
      intro x hx
      rcases List.mem_append.1 (List.mem_of_mem_tail hx) with hx | hx
      · exact hand x hx
      · rw [List.mem_singleton.1 hx]
        rfl

/-- A condition before a group narrows it. -/
theorem holds_cons_grouped (c : Condition) (f : Filter) :
    holds ρ (.leaf .and c :: grouped .and f) = (ρ c && f.holds ρ) := by
  cases f with
  | nil => rw [grouped, holds_singleton, Clause.truth_leaf, holds_nil, Bool.and_true]
  | cons first rest =>
      rw [grouped, holds, List.map_cons, List.map_cons, List.map_nil, Clause.truth_leaf,
        Clause.truth_group]
      rfl

/-! ## A condition before others -/

theorem holds_head_of_and {x : Condition} {f : Filter} (hor : f.hasOr = false)
    (h : holds ρ (.leaf .and x :: f) = true) : ρ x = true := by
  -- the condition and those behind it are two lists, which no OR can mix
  have hunmixed : Unmixed [[.leaf .and x], f] :=
    Or.inr fun c hc => connective_of_hasOr_eq_false f hor c (by simpa using hc)
  have heach := hunmixed.holds_each ρ (by simpa using h) [.leaf .and x] (List.mem_cons_self ..)
  rwa [holds_singleton, Clause.truth_leaf] at heach

/-- An OR behind a condition makes an alternative in which the condition is false. -/
theorem holds_outside_head {x : Condition} {f : Filter} (hor : f.hasOr = true)
    (hx : x ∉ f.conditions) : holds (outside [x]) (.leaf .and x :: f) = true := by
  obtain ⟨c, hc, hk⟩ := List.any_eq_true.1 hor
  obtain ⟨before, behind, rfl⟩ := List.append_of_mem hc
  have hbehind : holds (outside [x]) (c :: behind) = true := by
    apply holds_outside_singleton
    rw [conditions_append, List.mem_append, not_or] at hx
    exact hx.2
  rw [← List.cons_append, holds_append_or _ _ c behind (List.cons_ne_nil _ _) (eq_of_beq hk), hbehind,
    Bool.or_true]

end Filter

theorem Draft.wheres_groupWheres {d : Draft} {f : Filter} (h : d.wheres = f.toWheres d.dialect) :
    d.groupWheres.wheres = f.gathered.toWheres d.dialect := by
  have hor : d.hasOr = f.hasOr := by
    rw [hasOr, h, Filter.hasOr_toWheres]
  rw [groupWheres, Filter.gathered, hor]
  split
  · show [Where.mk .and (Sql.group d.dialect d.wheres)]
      = [Clause.toWhere d.dialect (.group .and f)]
    rw [Clause.toWhere_group, h]
  · exact h

theorem Draft.groupWheres_eq (d : Draft) :
    d.groupWheres = { d with wheres := d.groupWheres.wheres } := by
  rw [groupWheres]
  split <;> rfl

/-! ## Conditions of content -/

namespace Draft

theorem after_wheres (d : Draft) (calls : List Call) :
    (d.after calls).wheres = d.wheres ++ (clausesOf calls).toWheres d.dialect := by
  induction calls generalizing d with
  | nil => exact (List.append_nil _).symm
  | cons call rest ih =>
      have hfirst : (d.afterCall call).wheres = d.wheres ++ call.clauses.toWheres d.dialect :=
        call.effect_wheres { draft := d }
      have hdialect : (d.afterCall call).dialect = d.dialect :=
        (call.effect_sameFrame { draft := d }).dialect
      rw [after_cons, ih, hfirst, hdialect, clausesOf, Filter.toWheres_append, List.append_assoc]

theorem isolate_table (d : Draft) (count : Nat) : (d.isolate count).table = d.table := by
  rw [isolate]
  split <;> rfl

@[simp] theorem snapshot_table (d : Draft) : d.snapshot.table = d.table := by
  simp only [snapshot]
  split
  · rw [ensureKeyOrder_eq]
  · rfl

end Draft

/-! ## Builders that carry a filter -/

theorem Builder.fault_of_toQuery {b : Builder} {q : Query} (h : b.toQuery = .ok q) :
    b.draft.fault = none := by
  rw [Builder.toQuery] at h
  split at h
  · cases h
  · assumption

theorem Builder.toSql_eq_ok_iff {b : Builder} {statement : Statement} :
    b.toSql = .ok statement
      ↔ ∃ q, b.toQuery = .ok q ∧ statement = Sql.compileSelect b.dialect q := by
  rw [Builder.toSql]
  cases b.toQuery with
  | error e => simp [Except.map]
  | ok q => simp [Except.map, eq_comm]

/-- No call has had a fault if a run of calls and what follows it has none. -/
theorem runCalls_fault_eq_none {b : Builder} {calls : List Call} :
    (runCalls b calls).draft.fault = none ↔ b.draft.fault = none ∧ faultOf? calls = none := by
  rw [runCalls_fault, Option.or_eq_none_iff]

namespace Builder

namespace Awaits

variable {a : Agenda} {b : Builder}

theorem runCalls (h : Awaits a b) {calls : List Call} (hfault : faultOf? calls = none) :
    Awaits (calls.foldl Agenda.note a) (runCalls b calls) := by
  rw [runCalls_eq_effects calls b hfault]
  exact h.foldl_effect calls

theorem groupWheres (h : Awaits a b) : Awaits a b.groupWheres := by
  rw [Builder.groupWheres, Builder.modify, Draft.groupWheres_eq]
  exact ⟨⟨h.holds.scopes, h.holds.removed⟩, h.fault, h.scopesApplied, h.lateScopes⟩

end Awaits

/-- The builder reads a table in a dialect, has the conditions of a filter, and awaits the scopes of
    an agenda. -/
structure Carries (d : Dialect) (table : String) (a : Agenda) (f : Filter) (b : Builder) : Prop
    extends Awaits a b where
  dialect : b.draft.dialect = d
  table : b.draft.table = table
  wheres : b.draft.wheres = f.toWheres d

namespace Carries

variable {d : Dialect} {table : String} {a : Agenda} {f : Filter} {b : Builder}

theorem new (d : Dialect) (table : String) : Carries d table {} [] (Builder.new d table) :=
  { toAwaits := .new d table, dialect := rfl, table := rfl, wheres := rfl }

theorem runCalls (h : Carries d table a f b) {calls : List Call} (hfault : faultOf? calls = none) :
    Carries d table (calls.foldl Agenda.note a) (f ++ clausesOf calls) (runCalls b calls) := by
  have hawaits := h.toAwaits.runCalls hfault
  rw [runCalls_eq_effects calls b hfault] at hawaits ⊢
  have hframe := Call.foldl_effect_sameFrame calls b
  exact
    { toAwaits := hawaits
      dialect := hframe.dialect.trans h.dialect
      table := hframe.table.trans h.table
      wheres := by rw [Call.foldl_effect_wheres, h.wheres, h.dialect, Filter.toWheres_append] }

theorem groupWheres (h : Carries d table a f b) : Carries d table a f.gathered b.groupWheres := by
  have hwheres := Draft.wheres_groupWheres (h.wheres.trans (by rw [h.dialect]))
  rw [h.dialect] at hwheres
  refine { toAwaits := h.toAwaits.groupWheres, dialect := ?_, table := ?_, wheres := hwheres }
  · rw [Builder.groupWheres, Builder.modify, Draft.groupWheres_eq]
    exact h.dialect
  · rw [Builder.groupWheres, Builder.modify, Draft.groupWheres_eq]
    exact h.table

/-- Calls on a new builder, and then all their conditions as one. -/
theorem of_calls {calls : List Call}
    (hfault : (QueryKit.runCalls (Builder.new d table) calls).groupWheres.draft.fault = none) :
    Carries d table (calls.foldl Agenda.note {}) (clausesOf calls).gathered
      (QueryKit.runCalls (Builder.new d table) calls).groupWheres := by
  rw [Builder.groupWheres, Builder.modify, Draft.groupWheres_eq] at hfault
  exact ((Carries.new d table).runCalls (runCalls_fault_eq_none.1 hfault).2).groupWheres

variable {q : Query}

theorem toQuery_table (h : Carries d table a f b) (hq : b.toQuery = .ok q) : q.table = table := by
  rw [h.toAwaits.toQuery] at hq
  split at hq
  · cases hq
  · cases hq
    rw [Draft.snapshot_table, Draft.isolate_table, Draft.after_table]
    exact h.table

/-- **The conditions of a query** are those of the filter that the builder carries and those of the
    scopes it awaits, kept apart. -/
theorem toQuery_wheres (h : Carries d table a f b) (hq : b.toQuery = .ok q) :
    q.wheres = (Filter.isolate f (a.applied.flatMap clausesOf)).toWheres d := by
  rw [h.toAwaits.toQuery] at hq
  split at hq
  · cases hq
  · cases hq
    have hwheres := Draft.after_wheres b.draft.content a.applied.flatten
    have hdialect := Draft.after_dialect b.draft.content a.applied.flatten
    rw [show b.draft.content.dialect = d from h.dialect] at hwheres hdialect
    rw [show b.draft.content.wheres = f.toWheres d from h.wheres, ← Filter.toWheres_append,
      clausesOf_flatten, ← hdialect] at hwheres
    rw [Draft.wheres_snapshot, h.wheres, Filter.length_toWheres, Draft.wheres_isolate _ _ _ hwheres,
      hdialect]

/-- The read of a builder has the conditions of the filter that it carries and those of the scopes it
    awaits. -/
theorem toSql (h : Carries d table a f b) {statement : Statement} (hsql : b.toSql = .ok statement) :
    ∃ q : Query, q.wheres = (Filter.isolate f (a.applied.flatMap clausesOf)).toWheres d
      ∧ statement = Sql.compileSelect d q := by
  obtain ⟨q, hq, rfl⟩ := Builder.toSql_eq_ok_iff.1 hsql
  exact ⟨q, h.toQuery_wheres hq, congrArg (Sql.compileSelect · q) h.dialect⟩

end Carries

/-! ## Builders made of calls -/

/-- Unless it has a fault, the builder awaits the scopes of some agenda. -/
def MadeOfCalls (b : Builder) : Prop :=
  b.draft.fault = none → ∃ a, Awaits a b

namespace MadeOfCalls

variable {b : Builder}

theorem new (d : Dialect) (table : String) : MadeOfCalls (Builder.new d table) :=
  fun _ => ⟨{}, .new d table⟩

theorem runCalls (h : MadeOfCalls b) (calls : List Call) : MadeOfCalls (runCalls b calls) := by
  intro hfault
  obtain ⟨hb, hcalls⟩ := runCalls_fault_eq_none.1 hfault
  obtain ⟨a, ha⟩ := h hb
  exact ⟨_, ha.runCalls hcalls⟩

theorem groupWheres (h : MadeOfCalls b) : MadeOfCalls b.groupWheres := by
  intro hfault
  rw [Builder.groupWheres, Builder.modify, Draft.groupWheres_eq] at hfault
  obtain ⟨a, ha⟩ := h hfault
  exact ⟨a, ha.groupWheres⟩

/-- If a read can be compiled for some ids, it can be for all. -/
theorem toSql_whereIn (h : MadeOfCalls b) {column : String} {ids : List Value}
    {statement : Statement} (hsql : (b.whereIn column ids).toSql = .ok statement)
    (others : List Value) : ∃ other, (b.whereIn column others).toSql = .ok other := by
  obtain ⟨q, hq, -⟩ := Builder.toSql_eq_ok_iff.1 hsql
  obtain ⟨hb, hcall⟩ := runCalls_fault_eq_none.1
    (Builder.fault_of_toQuery hq
      : (QueryKit.runCalls b [.oneOf .and column ids false]).draft.fault = none)
  obtain ⟨a, ha⟩ := h hb
  -- what is bound is neither checked nor noted
  have hids : Awaits a (b.whereIn column ids) := ha.runCalls hcall
  have hcall' : faultOf? [.oneOf .and column others false] = none := hcall
  have hothers : Awaits a (b.whereIn column others) := ha.runCalls hcall'
  rw [hids.toQuery] at hq
  cases hfault : faultOf? a.applied.flatten with
  | some fault =>
      rw [hfault] at hq
      cases hq
  | none =>
      have hquery := hothers.toQuery
      rw [hfault] at hquery
      exact ⟨_, Builder.toSql_eq_ok_iff.2 ⟨_, hquery, rfl⟩⟩

end MadeOfCalls

end Builder

end QueryKit
